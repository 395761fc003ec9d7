/-!
The style sheet that every exported document carries.
-/

namespace PageBuilder

/-- The rules for every kind of widget, one line each. -/
def stylesheet : List String := [
  "* \x7b box-sizing: border-box; \x7d",
  "body \x7b margin: 0; font-family: -apple-system, BlinkMacSystemFont, \"Segoe UI\", Roboto, " ++
    "sans-serif; color: #1f2937; background: #ffffff; \x7d",
  ".pc-section \x7b overflow: hidden; \x7d",
  ".pc-el \x7b margin: 0; \x7d",
  ".pc-text \x7b white-space: pre-wrap; \x7d",
  ".pc-button \x7b cursor: pointer; border: none; border-radius: 6px; padding: 12px 24px; " ++
    "background: #2563eb; color: #ffffff; font: inherit; text-align: center; text-decoration: " ++
    "none; display: inline-flex; align-items: center; justify-content: center; \x7d",
  ".pc-image img, img.pc-image \x7b object-fit: cover; display: block; \x7d",
  ".pc-rectangle \x7b background: #e5e7eb; \x7d",
  ".pc-circle \x7b background: #e5e7eb; border-radius: 50%; \x7d",
  ".pc-triangle \x7b background: #e5e7eb; clip-path: polygon(50% 0%, 0% 100%, 100% 100%); \x7d",
  ".pc-divider \x7b background: #d1d5db; \x7d",
  ".pc-card \x7b background: #ffffff; border-radius: 12px; box-shadow: 0 4px 16px rgba(0, 0, " ++
    "0, 0.08); overflow: hidden; \x7d",
  ".pc-card-image img \x7b width: 100%; height: 180px; object-fit: cover; display: block; \x7d",
  ".pc-card-body \x7b padding: 16px; \x7d",
  ".pc-card-title \x7b margin: 0 0 8px; font-size: 1.25rem; \x7d",
  ".pc-card-content \x7b margin: 0; color: #4b5563; \x7d",
  ".pc-header \x7b display: flex; align-items: center; justify-content: space-between; " ++
    "padding: 0 32px; background: #ffffff; \x7d",
  ".pc-header-logo \x7b font-weight: 700; font-size: 1.5rem; \x7d",
  ".pc-header-logo img \x7b max-height: 48px; display: block; \x7d",
  ".pc-header-nav \x7b display: flex; gap: 24px; \x7d",
  ".pc-header-nav a \x7b color: inherit; text-decoration: none; \x7d",
  ".pc-carousel \x7b overflow: hidden; \x7d",
  ".pc-carousel-track \x7b position: relative; width: 100%; height: 100%; \x7d",
  ".pc-carousel-slide \x7b position: absolute; inset: 0; opacity: 0; transition: opacity 0.6s " ++
    "ease; \x7d",
  ".pc-carousel-slide.is-active \x7b opacity: 1; \x7d",
  ".pc-carousel-slide img \x7b width: 100%; height: 100%; object-fit: cover; display: block; \x7d",
  ".pc-carousel-caption \x7b position: absolute; left: 0; right: 0; bottom: 0; padding: 24px " ++
    "32px; color: #ffffff; background: linear-gradient(transparent, rgba(0, 0, 0, 0.6)); \x7d",
  ".pc-carousel-caption h3 \x7b margin: 0 0 8px; \x7d",
  ".pc-carousel-caption p \x7b margin: 0; \x7d",
  ".pc-carousel-arrow, .pc-cards-arrow \x7b position: absolute; top: 50%; transform: " ++
    "translateY(-50%); z-index: 2; width: 40px; height: 40px; border: none; border-radius: " ++
    "50%; background: rgba(255, 255, 255, 0.85); cursor: pointer; font-size: 24px; " ++
    "line-height: 1; \x7d",
  ".pc-carousel-prev, .pc-cards-prev \x7b left: 12px; \x7d",
  ".pc-carousel-next, .pc-cards-next \x7b right: 12px; \x7d",
  ".pc-carousel-dots \x7b position: absolute; left: 0; right: 0; bottom: 12px; display: flex; " ++
    "justify-content: center; gap: 8px; z-index: 2; \x7d",
  ".pc-carousel-dot \x7b width: 10px; height: 10px; padding: 0; border: none; border-radius: " ++
    "50%; background: rgba(255, 255, 255, 0.5); cursor: pointer; \x7d",
  ".pc-carousel-dot.is-active \x7b background: #ffffff; \x7d",
  ".pc-cards-carousel \x7b overflow: hidden; \x7d",
  ".pc-cards-viewport \x7b overflow: hidden; width: 100%; height: 100%; \x7d",
  ".pc-cards-track \x7b display: flex; height: 100%; transition: transform 0.5s ease; \x7d",
  ".pc-cards-item \x7b padding: 12px; \x7d",
  ".pc-cards-item .pc-card \x7b height: 100%; \x7d",
  ".pc-catalog \x7b overflow: auto; padding: 24px; background: #f9fafb; \x7d",
  ".pc-catalog-header \x7b display: flex; align-items: center; justify-content: space-between; " ++
    "gap: 16px; margin-bottom: 16px; \x7d",
  ".pc-catalog-header h2 \x7b margin: 0; \x7d",
  ".pc-catalog-search \x7b display: flex; gap: 8px; \x7d",
  ".pc-catalog-search input \x7b padding: 8px 12px; border: 1px solid #d1d5db; border-radius: " ++
    "6px; min-width: 240px; \x7d",
  ".pc-catalog-breadcrumb \x7b display: flex; gap: 8px; margin-bottom: 12px; \x7d",
  ".pc-crumb \x7b border: none; background: none; color: #2563eb; cursor: pointer; padding: 0; " ++
    "font: inherit; \x7d",
  ".pc-crumb.is-current \x7b color: #1f2937; cursor: default; \x7d",
  ".pc-catalog-families, .pc-catalog-collections \x7b display: flex; flex-wrap: wrap; gap: " ++
    "8px; margin-bottom: 12px; \x7d",
  ".pc-catalog-chip \x7b border: 1px solid #d1d5db; border-radius: 999px; padding: 6px 14px; " ++
    "background: #ffffff; cursor: pointer; font: inherit; \x7d",
  ".pc-catalog-chip.is-active \x7b background: #2563eb; border-color: #2563eb; color: #ffffff; " ++
    "\x7d",
  ".pc-catalog-grid \x7b display: grid; grid-template-columns: repeat(auto-fill, minmax(200px, " ++
    "1fr)); gap: 16px; \x7d",
  ".pc-product \x7b background: #ffffff; border-radius: 10px; padding: 12px; cursor: pointer; " ++
    "box-shadow: 0 2px 8px rgba(0, 0, 0, 0.06); display: flex; flex-direction: column; gap: " ++
    "6px; \x7d",
  ".pc-product-image \x7b width: 100%; height: 160px; object-fit: cover; border-radius: 6px; \x7d",
  ".pc-product-name \x7b margin: 0; font-size: 1rem; \x7d",
  ".pc-product-code \x7b color: #6b7280; font-size: 0.8rem; \x7d",
  ".pc-product-price, .pc-detail-price \x7b font-weight: 700; \x7d",
  ".pc-catalog-pagination \x7b display: flex; align-items: center; justify-content: center; " ++
    "gap: 12px; margin-top: 16px; \x7d",
  ".pc-catalog-status \x7b margin-top: 12px; color: #6b7280; text-align: center; \x7d",
  ".pc-modal \x7b position: fixed; inset: 0; z-index: 1000; display: flex; align-items: " ++
    "center; justify-content: center; background: rgba(0, 0, 0, 0.5); \x7d",
  ".pc-modal[hidden] \x7b display: none; \x7d",
  ".pc-modal-dialog \x7b position: relative; width: min(720px, 92vw); max-height: 90vh; " ++
    "overflow: auto; background: #ffffff; border-radius: 12px; padding: 24px; \x7d",
  ".pc-modal-close \x7b position: absolute; top: 8px; right: 12px; border: none; background: " ++
    "none; font-size: 28px; cursor: pointer; \x7d",
  ".pc-detail-image \x7b width: 100%; max-height: 360px; object-fit: contain; \x7d",
  ".pc-detail-options \x7b display: flex; flex-wrap: wrap; align-items: center; gap: 8px; " ++
    "margin-top: 12px; \x7d",
  ".pc-detail-option-name \x7b font-weight: 600; margin-right: 8px; \x7d",
  ".pc-form \x7b display: flex; flex-direction: column; gap: 12px; padding: 24px; background: " ++
    "#ffffff; border-radius: 12px; \x7d",
  ".pc-form h3 \x7b margin: 0; \x7d",
  ".pc-form label \x7b display: flex; flex-direction: column; gap: 4px; font-size: 0.9rem; \x7d",
  ".pc-form input, .pc-form textarea \x7b padding: 10px 12px; border: 1px solid #d1d5db; " ++
    "border-radius: 6px; font: inherit; \x7d",
  ".pc-form textarea \x7b min-height: 120px; resize: vertical; \x7d",
  ".pc-form button \x7b align-self: flex-start; border: none; border-radius: 6px; padding: " ++
    "10px 20px; background: #2563eb; color: #ffffff; cursor: pointer; font: inherit; \x7d",
  ".pc-newsletter-form .pc-form-row, .pc-search-form \x7b flex-direction: row; align-items: " ++
    "center; \x7d",
  ".pc-form-row \x7b display: flex; gap: 8px; \x7d",
  ".pc-form-row input \x7b flex: 1; \x7d",
  ".pc-form-status \x7b min-height: 1.2em; font-size: 0.9rem; color: #059669; \x7d",
  ".pc-form-status.is-error \x7b color: #dc2626; \x7d"]

end PageBuilder
