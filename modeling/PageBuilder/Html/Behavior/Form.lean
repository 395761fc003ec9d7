/-!
Checks the required fields of a form and sends it.
-/

namespace PageBuilder.Behavior

/-- The lines of the script body. It reads all it needs from its configuration object. -/
def formSource : List String := [
  "var root = document.querySelector('[data-form=\"' + config.root + '\"]');",
  "if (!root) return;",
  "var status = root.querySelector('.pc-form-status');",
  "",
  "function report(message, isError) \x7b",
  "  if (!status) return;",
  "  status.textContent = message;",
  "  status.classList.toggle('is-error', !!isError);",
  "\x7d",
  "",
  "function collect() \x7b",
  "  var data = \x7b\x7d;",
  "  var fields = root.querySelectorAll('input[name], textarea[name], select[name]');",
  "  for (var i = 0; i < fields.length; i++) \x7b",
  "    data[fields[i].name] = fields[i].value;",
  "  \x7d",
  "  return data;",
  "\x7d",
  "",
  "function missingRequired() \x7b",
  "  var required = root.querySelectorAll('[required]');",
  "  for (var i = 0; i < required.length; i++) \x7b",
  "    if (!String(required[i].value || '').trim()) return required[i];",
  "  \x7d",
  "  return null;",
  "\x7d",
  "",
  "root.addEventListener('submit', function (event) \x7b",
  "  event.preventDefault();",
  "  var missing = missingRequired();",
  "  if (missing) \x7b",
  "    report(config.requiredMessage, true);",
  "    missing.focus();",
  "    return;",
  "  \x7d",
  "  var data = collect();",
  "",
  "  if (config.kind === 'search') \x7b",
  "    window.dispatchEvent(new CustomEvent('pc:search', \x7b detail: \x7b query: data.q || '' " ++
    "\x7d \x7d));",
  "    return;",
  "  \x7d",
  "",
  "  if (!config.action) \x7b",
  "    report(config.successMessage, false);",
  "    root.reset();",
  "    return;",
  "  \x7d",
  "",
  "  fetch(config.action, \x7b",
  "    method: 'POST',",
  "    headers: \x7b 'Content-Type': 'application/json' \x7d,",
  "    body: JSON.stringify(data)",
  "  \x7d).then(function (response) \x7b",
  "    if (!response.ok) throw new Error('HTTP ' + response.status);",
  "    report(config.successMessage, false);",
  "    root.reset();",
  "  \x7d).catch(function () \x7b",
  "    report(config.errorMessage, true);",
  "  \x7d);",
  "\x7d);"]

end PageBuilder.Behavior
