import SiteBuild.Component.Compiler
import SiteBuild.Module.Cache
import SiteBuild.Module.Linked
import SiteBuild.Style.Processor

/-!
# What a build relies on

A build flattens styles, fetches modules, compiles components and links graphs. The tools and
the network are given; a session keeps what they answered for later builds. Between the calls of
one build no other caller is about.
-/
namespace SiteBuild.Build

/-- What a tool is asked for. -/
inductive ToolCall where
  /-- Compile the source of a component. -/
  | compile (source : Text) (options : Json)
  /-- Flatten a style sheet. -/
  | flatten (css : Key)
  /-- Link a graph. -/
  | link (payload : Json)
  /-- Render the code of a page with the given values. -/
  | render (code : Text) (props : Fields)
  deriving Repr

/-- The tools and the network. -/
structure Tools (m : Type → Type) where
  /-- The answer of a tool. -/
  run : ToolCall → m (Except Failure Json)
  /-- The response for an address. -/
  request : Text → m (Except Module.NoResponse Module.Response)

/-- What builds leave for later builds. -/
structure Session where
  /-- The flattened style sheets. -/
  styles : Style.Memory := {}
  /-- The fetched modules. -/
  cache : Module.Cache := {}
  /-- The counts of the compiler. -/
  counts : Component.Counts := {}
  deriving Repr, Inhabited

/-- The steps of a build that reach beyond it. -/
structure Services (m : Type → Type) where
  /-- The greatest number of modules in a graph. -/
  limit : Nat
  /-- The flat form of a style sheet. -/
  flatten : Key → m (Except BuildError Textual)
  /-- The text of a remote module. -/
  fetch : Text → m (Except Failure Text)
  /-- The compiled form of a component, by its source and its id. -/
  compile : Textual → Component.Options → Option Text → m (Except Failure Component.Compiled)
  /-- The answer of the linker. -/
  link : Json → m (Except Failure Json)

variable {m : Type → Type} [Monad m]

/-- The services of a session. -/
def Services.ofTools (limit : Nat) (tools : Tools m) : Services (StateT Session m) where
  limit := limit
  flatten css := fun session => do
    let run (sheet : Key) := tools.run (.flatten sheet)
    let (result, styles) ← Style.process run session.styles css
    return (result, { session with styles := styles })
  fetch url := fun session => do
    let (result, cache) ← session.cache.fetch tools.request url
    return (result, { session with cache := cache })
  compile source options moduleId := fun session => do
    let run (text : Text) (chosen : Component.Options) :=
      tools.run (.compile text chosen.toJson)
    let (result, counts) ← Component.compile run source options moduleId session.counts
    return (result, { session with counts := counts })
  link payload := fun session => do
    return (← tools.run (.link payload), session)

end SiteBuild.Build
