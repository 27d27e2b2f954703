import SiteBuild.Bindings.Server

/-!
# Built-in modules

The modules that stand for the environment and for the runtime of components, and where the real
runtime is fetched from.
-/
namespace SiteBuild.Builtin

/-- The server of remote modules. -/
def cdnUrl : Text := "https://esm.sh"

/-- The name under which components import the runtime. -/
def packageName : Text := "svelte"

/-- The runtime that fits the compiler. -/
def runtimeUrl : Text := "https://esm.sh/svelte@5.16.0"

/-- The runtime of published pages. -/
def publishedUrl : Text := "https://esm.sh/svelte@5"

/-- The name of the module that tells the environment. -/
def environmentName : Text := "esm-env"

/-- The name of the module that stands for the runtime during a server render. -/
def serverRuntimeName : Text := "svelte-ssr-shim"

/-- The name under which components import the icon component. -/
def iconName : Text := "@iconify/svelte"

/-- The id of the icon component that is used in its place. -/
def iconId : Text := "virtual:IconifyIcon.svelte"

/-- The module that tells a build for the server from one for the browser. -/
def environmentModule (server dev : Bool) : Text :=
  let flag (value : Bool) : Text := if value then "true" else "false"
  "export const DEV = " ++ flag dev ++ "; export const PROD = " ++ flag (!dev) ++
    "; export const BROWSER = " ++ flag (!server) ++ ";"

/-- The runtime during a server render: all of the real one, but hooks that do nothing. -/
def serverRuntimeModule (runtimeUrl : Text) : Text :=
  Text.unlines [
    "export * from " ++ Script.literal (.str runtimeUrl) ++ ";",
    "export function onMount() \x7b\x7d",
    "export function onDestroy() \x7b\x7d",
    "export function beforeUpdate() \x7b\x7d",
    "export function afterUpdate() \x7b\x7d",
    "export function tick() \x7b return Promise.resolve(); \x7d"
  ]

/-- The icon component. -/
def iconSource : Text :=
  Text.unlines [
    "<script>",
    "  let \x7b icon, width = '1em', height = '1em', ...rest \x7d = $props();",
    "</script>",
    "",
    "<svelte:head>",
    "  \x7b@html '<script type=\"module\" " ++
      "src=\"https://cdn.jsdelivr.net/npm/iconify-icon@2/dist/iconify-icon.min.js\"></scr" ++
      "' + 'ipt>'\x7d",
    "</svelte:head>",
    "",
    "<iconify-icon \x7bicon\x7d \x7bwidth\x7d \x7bheight\x7d \x7b...rest\x7d></iconify-icon>"
  ]

end SiteBuild.Builtin
