/-!
Moves a row of cards by whole cards, by itself and by arrows.
-/

namespace PageBuilder.Behavior

/-- The lines of the script body. It reads all it needs from its configuration object. -/
def cardsCarouselSource : List String := [
  "var root = document.querySelector('[data-cards-carousel=\"' + config.root + '\"]');",
  "if (!root) return;",
  "var track = root.querySelector('.pc-cards-track');",
  "var cards = root.querySelectorAll('.pc-cards-item');",
  "var visible = Math.max(1, config.visible);",
  "var index = 0;",
  "var timer = null;",
  "",
  "function maxIndex() \x7b",
  "  return Math.max(0, cards.length - visible);",
  "\x7d",
  "",
  "function show(next) \x7b",
  "  var last = maxIndex();",
  "  if (next > last) next = 0;",
  "  if (next < 0) next = last;",
  "  index = next;",
  "  if (track) track.style.transform = 'translateX(-' + (index * 100 / visible) + '%)';",
  "\x7d",
  "",
  "function stop() \x7b",
  "  if (timer !== null) \x7b",
  "    clearInterval(timer);",
  "    timer = null;",
  "  \x7d",
  "\x7d",
  "",
  "function start() \x7b",
  "  stop();",
  "  if (config.autoplay && cards.length > visible) \x7b",
  "    timer = setInterval(function () \x7b show(index + 1); \x7d, config.interval);",
  "  \x7d",
  "\x7d",
  "",
  "for (var i = 0; i < cards.length; i++) \x7b",
  "  cards[i].style.flex = '0 0 ' + (100 / visible) + '%';",
  "\x7d",
  "",
  "var prev = root.querySelector('.pc-cards-prev');",
  "var next = root.querySelector('.pc-cards-next');",
  "if (prev) prev.addEventListener('click', function () \x7b show(index - 1); start(); \x7d);",
  "if (next) next.addEventListener('click', function () \x7b show(index + 1); start(); \x7d);",
  "root.addEventListener('mouseenter', stop);",
  "root.addEventListener('mouseleave', start);",
  "",
  "show(0);",
  "start();"]

end PageBuilder.Behavior
