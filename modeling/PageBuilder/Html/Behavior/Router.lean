/-!
Shows one section at a time, by the hash of the address and by calls of the links.
-/

namespace PageBuilder.Behavior

/-- The lines of the script body. It reads all it needs from its configuration object. -/
def routerSource : List String := [
  "var sections = config.sections;",
  "",
  "function byId(id) \x7b",
  "  for (var i = 0; i < sections.length; i++) \x7b",
  "    if (sections[i].id === id) return sections[i];",
  "  \x7d",
  "  return null;",
  "\x7d",
  "",
  "function bySlug(slug) \x7b",
  "  for (var i = 0; i < sections.length; i++) \x7b",
  "    if (sections[i].slug === slug) return sections[i];",
  "  \x7d",
  "  return null;",
  "\x7d",
  "",
  "function fallback() \x7b",
  "  return byId(config.home) || sections[0] || null;",
  "\x7d",
  "",
  "function show(section) \x7b",
  "  if (!section) return;",
  "  var blocks = document.querySelectorAll('.pc-section');",
  "  for (var i = 0; i < blocks.length; i++) \x7b",
  "    var active = blocks[i].getAttribute('data-section-id') === section.id;",
  "    blocks[i].style.display = active ? 'block' : 'none';",
  "  \x7d",
  "  window.scrollTo(0, 0);",
  "\x7d",
  "",
  "function fromHash() \x7b",
  "  var slug = decodeURIComponent(window.location.hash.replace(/^#/, ''));",
  "  return (slug && bySlug(slug)) || fallback();",
  "\x7d",
  "",
  "window.navigateToSection = function (id) \x7b",
  "  var section = byId(id) || fallback();",
  "  if (!section) return;",
  "  if (window.location.hash !== '#' + section.slug) \x7b",
  "    history.pushState(\x7b sectionId: section.id \x7d, '', '#' + section.slug);",
  "  \x7d",
  "  show(section);",
  "\x7d;",
  "",
  "window.addEventListener('popstate', function (event) \x7b",
  "  var state = event.state;",
  "  show((state && byId(state.sectionId)) || fromHash());",
  "\x7d);",
  "window.addEventListener('hashchange', function () \x7b show(fromHash()); \x7d);",
  "",
  "show(fromHash());"]

end PageBuilder.Behavior
