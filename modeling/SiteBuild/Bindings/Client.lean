import SiteBuild.Bindings.Server

/-!
# Binding modules of the browser

The modules that an import map supplies for the bindings in the browser. Records and functions
are those of the host, under the project's id; values are the same as during the server render.
-/
namespace SiteBuild.Bindings

/-- The function that makes a collection whose records the host holds. -/
def collectionFunction : Text :=
  String.intercalate "\n" [
    "function create_collection(name) \x7b",
    "  const base_url = API_BASE + '/' + PROJECT_ID + '/' + name",
    "  const subscribers = []",
    "  let cache = null",
    "",
    "  function notify(records) \x7b",
    "    cache = records",
    "    for (const cb of subscribers) \x7b",
    "      try \x7b cb(records) \x7d catch (e) \x7b console.error('[db] subscriber " ++
      "error:', e) \x7d",
    "    \x7d",
    "  \x7d",
    "",
    "  async function request(url, options) \x7b",
    "    const res = await fetch(url, options)",
    "    if (!res.ok) throw new Error(await res.text())",
    "    return res.status === 204 ? null : res.json()",
    "  \x7d",
    "",
    "  const collection = \x7b",
    "    _notify: notify,",
    "    async list(params = \x7b\x7d) \x7b",
    "      const query = new URLSearchParams()",
    "      for (const key of ['filter', 'sort', 'page', 'perPage', 'expand']) \x7b",
    "        if (params[key]) query.set(key, String(params[key]))",
    "      \x7d",
    "      const data = await request(base_url + '?' + query)",
    "      cache = data.items || []",
    "      return cache",
    "    \x7d,",
    "    get(id) \x7b return request(base_url + '/' + id) \x7d,",
    "    async create(data) \x7b",
    "      const record = await request(base_url, \x7b",
    "        method: 'POST', headers: \x7b 'Content-Type': 'application/json' \x7d, " ++
      "body: JSON.stringify(data)",
    "      \x7d)",
    "      if (cache && !cache.some((r) => r.id === record.id)) notify([...cache, record])",
    "      return record",
    "    \x7d,",
    "    async update(id, data) \x7b",
    "      const record = await request(base_url + '/' + id, \x7b",
    "        method: 'PATCH', headers: \x7b 'Content-Type': 'application/json' \x7d, " ++
      "body: JSON.stringify(data)",
    "      \x7d)",
    "      if (cache) notify(cache.map((r) => (r.id === id ? record : r)))",
    "      return record",
    "    \x7d,",
    "    async delete(id) \x7b",
    "      await request(base_url + '/' + id, \x7b method: 'DELETE' \x7d)",
    "      if (cache) notify(cache.filter((r) => r.id !== id))",
    "      return true",
    "    \x7d,",
    "    subscribe(callback, params = \x7b\x7d) \x7b",
    "      if (typeof callback !== 'function') return () => \x7b\x7d",
    "      subscribers.push(callback)",
    "      collection.list(params).then((items) => callback(items)).catch((e) => " ++
      "console.error('[db] initial fetch error:', e))",
    "      return () => \x7b",
    "        const idx = subscribers.indexOf(callback)",
    "        if (idx > -1) subscribers.splice(idx, 1)",
    "      \x7d",
    "    \x7d",
    "  \x7d",
    "  _collections[name] = collection",
    "  return collection",
    "\x7d"
  ]

/-- Collections backed by the host, with the given names known from the start. -/
def clientDataModule (projectId : Text) (collections : List Key) : Text :=
  Text.unlines [
    "const PROJECT_ID = " ++ Script.literal (.str projectId),
    "const API_BASE = '" ++ dataPath ++ "'",
    "const _collections = \x7b\x7d",
    "",
    collectionFunction,
    "",
    "for (const name of " ++ Script.literal (.arr (collections.map Key.toJson)) ++
      ") create_collection(name)",
    "",
    "if (typeof window !== 'undefined') \x7b",
    "  window.__tk_update_data = (all_data) => \x7b",
    "    for (const [name, collection] of Object.entries(_collections)) \x7b",
    "      const entry = all_data[name]",
    "      if (entry) collection._notify(entry.records || entry || [])",
    "    \x7d",
    "  \x7d",
    "  if (window.parent === window && typeof EventSource !== 'undefined') \x7b",
    "    const sse = new EventSource('/_tk/realtime/' + PROJECT_ID)",
    "    sse.addEventListener('data_updated', (e) => \x7b",
    "      try \x7b window.__tk_update_data(JSON.parse(e.data)) \x7d catch (err) \x7b " ++
      "console.warn('[db] bad realtime payload', err) \x7d",
    "    \x7d)",
    "  \x7d",
    "\x7d",
    "",
    "export default new Proxy(_collections, \x7b",
    "  get(target, prop) \x7b",
    "    if (prop in target) return target[prop]",
    "    if (typeof prop === 'string' && !prop.startsWith('_')) return " ++
      "create_collection(prop)",
    "    return undefined",
    "  \x7d",
    "\x7d)"
  ]

/-- Functions of the host, called over the network. -/
def clientBackendModule (projectId : Text) : Text :=
  Text.unlines [
    "const PROJECT_ID = " ++ Script.literal (.str projectId),
    "export default new Proxy(\x7b\x7d, \x7b",
    "  get(target, prop) \x7b",
    "    if (typeof prop !== 'string' || prop.startsWith('_') || prop === 'then') " ++
      "return undefined",
    "    return async (args = \x7b\x7d) => \x7b",
    "      const res = await fetch('" ++ backendPath ++ "/' + PROJECT_ID + '/' + prop, \x7b",
    "        method: 'POST',",
    "        headers: \x7b 'Content-Type': 'application/json' \x7d,",
    "        body: JSON.stringify(\x7b args \x7d)",
    "      \x7d)",
    "      const payload = await res.json()",
    "      if (!res.ok || payload.error) throw new Error(payload.error || ('Backend " ++
      "call failed: ' + res.status))",
    "      return payload.result",
    "    \x7d",
    "  \x7d",
    "\x7d)"
  ]

/-- The module that stands for a binding in the browser. -/
def clientModule (bindings : Bindings) : Binding → Text
  | .content => valueModule bindings.content
  | .design => valueModule bindings.design
  | .data => clientDataModule bindings.projectId bindings.collectionNames
  | .site => siteModule bindings.projectId
  | .backend => clientBackendModule bindings.projectId

/-- The modules of all bindings in the browser, by name. -/
def clientModules (bindings : Bindings) : List (Text × Text) :=
  Binding.all.map fun binding => (binding.name, bindings.clientModule binding)

end SiteBuild.Bindings
