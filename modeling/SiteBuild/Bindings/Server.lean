import SiteBuild.Bindings.Basic
import SiteBuild.Script.Literal

/-!
# Binding modules of a server render

The modules that stand for the bindings while a page is rendered on the server. Their text is
made of the values alone, and none of them depends on another module.
-/
namespace SiteBuild.Bindings

/-- The path of the host under which records are served. -/
def dataPath : Text := "/_tk/data"

/-- The path of the host under which its functions are called. -/
def backendPath : Text := "/_tk/backend"

/-- The path of the host under which assets are served. -/
def assetPath : Text := "/_tk/assets"

/-- The path of the host that fetches other sites for a page. -/
def proxyPath : Text := "/api/proxy"

/-- A module that exports a value and nothing else. -/
def valueModule (fields : Fields) : Text :=
  "export default " ++ Script.literal (.obj fields.toRecord) ++ ";"

/-- The records of every collection, by name. -/
def snapshot (bindings : Bindings) : Json :=
  .obj (bindings.data.map fun entry => (entry.1.name, .arr entry.2.records))

/-- Collections for reading, over the given records; an unknown name is an empty collection. -/
def serverDataModule (snapshot : Json) : Text :=
  Text.unlines [
    "const _snapshot = " ++ Script.literal snapshot ++ ";",
    "",
    "function read_only(name) \x7b",
    "  return () => Promise.reject(new Error('Collection \"' + name + '\" is read-only " ++
      "during server render'))",
    "\x7d",
    "",
    "function create_collection(name, records) \x7b",
    "  return \x7b",
    "    list() \x7b return Promise.resolve(records.slice()) \x7d,",
    "    get(id) \x7b return Promise.resolve(records.find((r) => r.id === id) ?? null) \x7d,",
    "    create: read_only(name),",
    "    update: read_only(name),",
    "    delete: read_only(name),",
    "    subscribe(callback) \x7b",
    "      if (typeof callback === 'function') callback(records.slice())",
    "      return () => \x7b\x7d",
    "    \x7d",
    "  \x7d",
    "\x7d",
    "",
    "const _collections = \x7b\x7d",
    "for (const [name, records] of Object.entries(_snapshot)) \x7b",
    "  _collections[name] = create_collection(name, records)",
    "\x7d",
    "",
    "export default new Proxy(_collections, \x7b",
    "  get(target, prop) \x7b",
    "    if (prop in target) return target[prop]",
    "    if (typeof prop === 'string' && !prop.startsWith('_')) return " ++
      "create_collection(prop, [])",
    "    return undefined",
    "  \x7d",
    "\x7d)"
  ]

/-- The addresses of assets and the requests that go through the host. -/
def siteModule (projectId : Text) : Text :=
  Text.unlines [
    "const PROJECT_ID = " ++ Script.literal (.str projectId),
    "",
    "export function asset(filename, options) \x7b",
    "  if (!filename) return ''",
    "  if (filename.startsWith('http://') || filename.startsWith('https://')) return filename",
    "  let url = PROJECT_ID ? '" ++ assetPath ++ "/' + PROJECT_ID + '/' + filename : '" ++
      assetPath ++ "/' + filename",
    "  const params = []",
    "  if (options?.thumb) params.push('thumb=' + options.thumb)",
    "  if (options?.download) params.push('download=1')",
    "  if (params.length) url += '?' + params.join('&')",
    "  return url",
    "\x7d",
    "",
    "export async function proxy(url, options = \x7b\x7d) \x7b",
    "  return fetch('" ++ proxyPath ++ "?url=' + encodeURIComponent(url), options)",
    "\x7d",
    "",
    "proxy.json = async function (url) \x7b",
    "  const response = await proxy(url)",
    "  if (!response.ok) throw new Error('Failed to fetch: ' + response.status)",
    "  return response.json()",
    "\x7d",
    "",
    "proxy.text = async function (url) \x7b",
    "  const response = await proxy(url)",
    "  if (!response.ok) throw new Error('Failed to fetch: ' + response.status)",
    "  return response.text()",
    "\x7d",
    "",
    "proxy.url = function (url) \x7b",
    "  return '" ++ proxyPath ++ "?url=' + encodeURIComponent(url)",
    "\x7d"
  ]

/-- Functions of the host during a server render: every call comes to nothing. -/
def serverBackendModule : Text :=
  Text.unlines [
    "const call = () => Promise.resolve(null)",
    "export default new Proxy(\x7b\x7d, \x7b",
    "  get(target, prop) \x7b",
    "    if (typeof prop !== 'string' || prop.startsWith('_') || prop === 'then') " ++
      "return undefined",
    "    return call",
    "  \x7d",
    "\x7d)"
  ]

/-- The module that stands for a binding during a server render. -/
def serverModule (bindings : Bindings) : Binding → Text
  | .content => valueModule bindings.content
  | .design => valueModule bindings.design
  | .data => serverDataModule bindings.snapshot
  | .site => siteModule bindings.projectId
  | .backend => serverBackendModule

/-- The module of a name during a server render, if the name is that of a binding. -/
def serverModule? (bindings : Bindings) (name : Text) : Option Text :=
  (Binding.ofName? name).map bindings.serverModule

end SiteBuild.Bindings
