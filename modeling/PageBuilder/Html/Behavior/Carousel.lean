/-!
Fades through the slides of a carousel, by itself, by arrows and by dots.
-/

namespace PageBuilder.Behavior

/-- The lines of the script body. It reads all it needs from its configuration object. -/
def carouselSource : List String := [
  "var root = document.querySelector('[data-carousel=\"' + config.root + '\"]');",
  "if (!root) return;",
  "var slides = root.querySelectorAll('.pc-carousel-slide');",
  "var dots = root.querySelectorAll('.pc-carousel-dot');",
  "var index = 0;",
  "var timer = null;",
  "",
  "function show(next) \x7b",
  "  if (!slides.length) return;",
  "  index = (next + slides.length) % slides.length;",
  "  for (var i = 0; i < slides.length; i++) \x7b",
  "    slides[i].classList.toggle('is-active', i === index);",
  "  \x7d",
  "  for (var j = 0; j < dots.length; j++) \x7b",
  "    dots[j].classList.toggle('is-active', j === index);",
  "  \x7d",
  "\x7d",
  "",
  "function stop() \x7b",
  "  if (timer !== null) \x7b",
  "    clearInterval(timer);",
  "    timer = null;",
  "  \x7d",
  "\x7d",
  "",
  "function start() \x7b",
  "  stop();",
  "  if (config.autoplay && slides.length > 1) \x7b",
  "    timer = setInterval(function () \x7b show(index + 1); \x7d, config.interval);",
  "  \x7d",
  "\x7d",
  "",
  "var prev = root.querySelector('.pc-carousel-prev');",
  "var next = root.querySelector('.pc-carousel-next');",
  "if (prev) prev.addEventListener('click', function () \x7b show(index - 1); start(); \x7d);",
  "if (next) next.addEventListener('click', function () \x7b show(index + 1); start(); \x7d);",
  "for (var d = 0; d < dots.length; d++) \x7b",
  "  (function (target) \x7b",
  "    dots[target].addEventListener('click', function () \x7b show(target); start(); \x7d);",
  "  \x7d)(d);",
  "\x7d",
  "root.addEventListener('mouseenter', stop);",
  "root.addEventListener('mouseleave', start);",
  "",
  "show(0);",
  "start();"]

end PageBuilder.Behavior
