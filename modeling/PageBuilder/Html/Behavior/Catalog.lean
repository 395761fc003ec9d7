/-!
Lists the products of a remote catalog with families, pages, a search and a detail view.
-/

namespace PageBuilder.Behavior

/-- The lines of the script body. It reads all it needs from its configuration object. -/
def catalogSource : List String := [
  "var root = document.querySelector('[data-catalog=\"' + config.root + '\"]');",
  "if (!root) return;",
  "",
  "var parts = \x7b",
  "  breadcrumb: root.querySelector('.pc-catalog-breadcrumb'),",
  "  families: root.querySelector('.pc-catalog-families'),",
  "  collections: root.querySelector('.pc-catalog-collections'),",
  "  grid: root.querySelector('.pc-catalog-grid'),",
  "  pagination: root.querySelector('.pc-catalog-pagination'),",
  "  status: root.querySelector('.pc-catalog-status'),",
  "  search: root.querySelector('.pc-catalog-search'),",
  "  modal: root.querySelector('.pc-modal'),",
  "  modalBody: root.querySelector('.pc-modal-body')",
  "\x7d;",
  "",
  "var state = \x7b",
  "  family: null,",
  "  collection: null,",
  "  page: 1,",
  "  pages: 1,",
  "  search: '',",
  "  code: ''",
  "\x7d;",
  "",
  "function el(tag, className, text) \x7b",
  "  var node = document.createElement(tag);",
  "  if (className) node.className = className;",
  "  if (text !== undefined && text !== null) node.textContent = String(text);",
  "  return node;",
  "\x7d",
  "",
  "function clear(node) \x7b",
  "  while (node && node.firstChild) node.removeChild(node.firstChild);",
  "\x7d",
  "",
  "function setStatus(message) \x7b",
  "  if (parts.status) parts.status.textContent = message || '';",
  "\x7d",
  "",
  "function url(path, params) \x7b",
  "  var query = [config.identityParam + '=' + encodeURIComponent(config.identity)];",
  "  for (var key in params) \x7b",
  "    if (params[key] !== null && params[key] !== undefined && params[key] !== '') \x7b",
  "      query.push(key + '=' + encodeURIComponent(params[key]));",
  "    \x7d",
  "  \x7d",
  "  return config.apiBase + path + '?' + query.join('&');",
  "\x7d",
  "",
  "function getJson(path, params) \x7b",
  "  return fetch(url(path, params), \x7b headers: \x7b 'Accept': 'application/json' \x7d \x7d)",
  "    .then(function (response) \x7b",
  "      if (!response.ok) throw new Error('HTTP ' + response.status);",
  "      return response.json();",
  "    \x7d);",
  "\x7d",
  "",
  "function postJson(path, payload) \x7b",
  "  payload[config.identityParam] = config.identity;",
  "  return fetch(config.apiBase + path, \x7b",
  "    method: 'POST',",
  "    headers: \x7b 'Content-Type': 'application/json', 'Accept': 'application/json' \x7d,",
  "    body: JSON.stringify(payload)",
  "  \x7d).then(function (response) \x7b",
  "    if (!response.ok) throw new Error('HTTP ' + response.status);",
  "    return response.json();",
  "  \x7d);",
  "\x7d",
  "",
  "function listOf(data, key) \x7b",
  "  if (Array.isArray(data)) return data;",
  "  if (data && Array.isArray(data[key])) return data[key];",
  "  return [];",
  "\x7d",
  "",
  "function formatPrice(value) \x7b",
  "  var amount = Number(value);",
  "  if (!isFinite(amount)) return '';",
  "  return config.currency + amount.toFixed(2);",
  "\x7d",
  "",
  "function renderBreadcrumb() \x7b",
  "  clear(parts.breadcrumb);",
  "  var home = el('button', 'pc-crumb', config.rootLabel);",
  "  home.type = 'button';",
  "  home.addEventListener('click', function () \x7b",
  "    state.family = null;",
  "    state.collection = null;",
  "    loadFamilies();",
  "  \x7d);",
  "  parts.breadcrumb.appendChild(home);",
  "  if (state.family) \x7b",
  "    var family = el('button', 'pc-crumb', state.family.name);",
  "    family.type = 'button';",
  "    family.addEventListener('click', function () \x7b selectFamily(state.family); \x7d);",
  "    parts.breadcrumb.appendChild(family);",
  "  \x7d",
  "  if (state.collection) \x7b",
  "    parts.breadcrumb.appendChild(el('span', 'pc-crumb is-current', state.collection.name));",
  "  \x7d",
  "\x7d",
  "",
  "function renderChoices(container, items, onPick) \x7b",
  "  clear(container);",
  "  items.forEach(function (item) \x7b",
  "    var button = el('button', 'pc-catalog-chip', item.name);",
  "    button.type = 'button';",
  "    button.addEventListener('click', function () \x7b onPick(item); \x7d);",
  "    container.appendChild(button);",
  "  \x7d);",
  "\x7d",
  "",
  "function loadFamilies() \x7b",
  "  renderBreadcrumb();",
  "  clear(parts.collections);",
  "  setStatus(config.loadingText);",
  "  getJson('/families', \x7b branchId: config.branchId \x7d)",
  "    .then(function (data) \x7b",
  "      renderChoices(parts.families, listOf(data, 'families'), selectFamily);",
  "      setStatus('');",
  "    \x7d)",
  "    .catch(function () \x7b",
  "      renderChoices(parts.families, [], selectFamily);",
  "      setStatus(config.emptyText);",
  "    \x7d);",
  "  loadProducts(1);",
  "\x7d",
  "",
  "function selectFamily(family) \x7b",
  "  state.family = family;",
  "  state.collection = null;",
  "  renderBreadcrumb();",
  "  getJson('/collections', \x7b familyId: family.id \x7d)",
  "    .then(function (data) \x7b",
  "      renderChoices(parts.collections, listOf(data, 'collections'), selectCollection);",
  "    \x7d)",
  "    .catch(function () \x7b",
  "      renderChoices(parts.collections, [], selectCollection);",
  "    \x7d);",
  "  loadProducts(1);",
  "\x7d",
  "",
  "function selectCollection(collection) \x7b",
  "  state.collection = collection;",
  "  renderBreadcrumb();",
  "  loadProducts(1);",
  "\x7d",
  "",
  "function loadProducts(page) \x7b",
  "  state.page = page;",
  "  setStatus(config.loadingText);",
  "  postJson('/products', \x7b",
  "    branchId: config.branchId,",
  "    familyId: state.family ? state.family.id : null,",
  "    collectionId: state.collection ? state.collection.id : null,",
  "    search: state.search,",
  "    code: state.code,",
  "    page: page,",
  "    pageSize: config.pageSize",
  "  \x7d)",
  "    .then(function (data) \x7b",
  "      var items = listOf(data, 'items');",
  "      state.pages = Math.max(1, Number(data && data.pages) || Math.ceil((Number(data && " ++
    "data.total) || items.length) / config.pageSize));",
  "      renderProducts(items);",
  "      setStatus(items.length ? '' : config.emptyText);",
  "    \x7d)",
  "    .catch(function () \x7b",
  "      state.pages = 1;",
  "      renderProducts([]);",
  "      setStatus(config.emptyText);",
  "    \x7d);",
  "\x7d",
  "",
  "function renderProducts(items) \x7b",
  "  clear(parts.grid);",
  "  items.forEach(function (product) \x7b",
  "    var card = el('article', 'pc-product');",
  "    if (product.image) \x7b",
  "      var img = el('img', 'pc-product-image');",
  "      img.src = product.image;",
  "      img.alt = product.name || '';",
  "      img.loading = 'lazy';",
  "      card.appendChild(img);",
  "    \x7d",
  "    card.appendChild(el('h3', 'pc-product-name', product.name));",
  "    if (product.code) card.appendChild(el('span', 'pc-product-code', product.code));",
  "    if (product.price !== undefined) card.appendChild(el('span', 'pc-product-price', " ++
    "formatPrice(product.price)));",
  "    card.addEventListener('click', function () \x7b openProduct(product); \x7d);",
  "    parts.grid.appendChild(card);",
  "  \x7d);",
  "  renderPagination();",
  "\x7d",
  "",
  "function renderPagination() \x7b",
  "  clear(parts.pagination);",
  "  if (state.pages <= 1) return;",
  "  var prev = el('button', 'pc-page-prev', '‹');",
  "  prev.type = 'button';",
  "  prev.disabled = state.page <= 1;",
  "  prev.addEventListener('click', function () \x7b loadProducts(state.page - 1); \x7d);",
  "  var next = el('button', 'pc-page-next', '›');",
  "  next.type = 'button';",
  "  next.disabled = state.page >= state.pages;",
  "  next.addEventListener('click', function () \x7b loadProducts(state.page + 1); \x7d);",
  "  parts.pagination.appendChild(prev);",
  "  parts.pagination.appendChild(el('span', 'pc-page-label', state.page + ' / ' + state.pages));",
  "  parts.pagination.appendChild(next);",
  "\x7d",
  "",
  "function runSearch(query) \x7b",
  "  var text = String(query || '').trim();",
  "  if (/^\\d[\\w-]*$/.test(text)) \x7b",
  "    state.code = text;",
  "    state.search = '';",
  "  \x7d else \x7b",
  "    state.code = '';",
  "    state.search = text;",
  "  \x7d",
  "  loadProducts(1);",
  "\x7d",
  "",
  "function openProduct(product) \x7b",
  "  var selected = \x7b\x7d;",
  "  parts.modal.hidden = false;",
  "  renderDetail(product, [], null);",
  "",
  "  function resolve() \x7b",
  "    var optionIds = [];",
  "    for (var group in selected) optionIds.push(selected[group]);",
  "    postJson('/products/' + encodeURIComponent(product.id) + '/detail', \x7b",
  "      branchId: config.branchId,",
  "      optionIds: optionIds",
  "    \x7d)",
  "      .then(function (data) \x7b",
  "        renderDetail(data.product || product, listOf(data, 'options'), data.variant || null);",
  "      \x7d)",
  "      .catch(function () \x7b",
  "        renderDetail(product, [], null);",
  "        setStatus(config.emptyText);",
  "      \x7d);",
  "  \x7d",
  "",
  "  function renderDetail(info, options, variant) \x7b",
  "    clear(parts.modalBody);",
  "    var image = (variant && variant.image) || info.image;",
  "    if (image) \x7b",
  "      var img = el('img', 'pc-detail-image');",
  "      img.src = image;",
  "      img.alt = info.name || '';",
  "      parts.modalBody.appendChild(img);",
  "    \x7d",
  "    parts.modalBody.appendChild(el('h2', 'pc-detail-name', info.name));",
  "    if (info.description) parts.modalBody.appendChild(el('p', 'pc-detail-description', " ++
    "info.description));",
  "    var price = variant && variant.price !== undefined ? variant.price : info.price;",
  "    if (price !== undefined) parts.modalBody.appendChild(el('span', 'pc-detail-price', " ++
    "formatPrice(price)));",
  "    if (variant && variant.stock !== undefined) \x7b",
  "      parts.modalBody.appendChild(el('span', 'pc-detail-stock', config.stockLabel + ': ' + " ++
    "variant.stock));",
  "    \x7d",
  "    options.forEach(function (group) \x7b",
  "      var row = el('div', 'pc-detail-options');",
  "      row.appendChild(el('span', 'pc-detail-option-name', group.name));",
  "      listOf(group, 'values').forEach(function (value) \x7b",
  "        var chip = el('button', 'pc-catalog-chip', value.name);",
  "        chip.type = 'button';",
  "        if (selected[group.id] === value.id) chip.classList.add('is-active');",
  "        chip.addEventListener('click', function () \x7b",
  "          selected[group.id] = value.id;",
  "          resolve();",
  "        \x7d);",
  "        row.appendChild(chip);",
  "      \x7d);",
  "      parts.modalBody.appendChild(row);",
  "    \x7d);",
  "  \x7d",
  "",
  "  resolve();",
  "\x7d",
  "",
  "function closeModal() \x7b",
  "  parts.modal.hidden = true;",
  "  clear(parts.modalBody);",
  "\x7d",
  "",
  "var closeButton = root.querySelector('.pc-modal-close');",
  "if (closeButton) closeButton.addEventListener('click', closeModal);",
  "parts.modal.addEventListener('click', function (event) \x7b",
  "  if (event.target === parts.modal) closeModal();",
  "\x7d);",
  "",
  "if (parts.search) \x7b",
  "  parts.search.addEventListener('submit', function (event) \x7b",
  "    event.preventDefault();",
  "    var input = parts.search.querySelector('input[name=\"q\"]');",
  "    runSearch(input ? input.value : '');",
  "  \x7d);",
  "\x7d",
  "window.addEventListener('pc:search', function (event) \x7b",
  "  runSearch(event.detail && event.detail.query);",
  "\x7d);",
  "",
  "loadFamilies();"]

end PageBuilder.Behavior
