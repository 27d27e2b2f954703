import SiteBuild.Proofs.Courses

/-!
# What sessions keep

When a service replies the same whenever it is asked the same, a session keeps nothing but what
the services would reply. Main statements: a session stays right whatever is asked and answered
(`Session.Right.ask`, `Session.Right.answer`), what is at hand in it is what the services would
reply (`Session.Right.at_hand`), a service that is called at once asks and takes in the answer
(`serve_eq`), and a request that is alone comes to the outcome of its course
(`Course.outcome_ofRequest`).
-/
namespace SiteBuild.Build

variable {tools : Tools Id} {session later : Session}

/-- Whether the tool flattens equal sheets alike. Sheets are equal as keys are: a truth value and the
integer it stands for are one sheet, and so are an integer and a real number of the same value. A
sheet that is a text equals no other, so this is a matter of the other sheets only
(`Tools.uniform_of_others`). -/
def Tools.Uniform (tools : Tools Id) : Prop :=
  ∀ css other : Key, css.same other → tools.run (.flatten css) = tools.run (.flatten other)

/-- A tool flattens equal sheets alike if it does so with sheets that are no texts. -/
theorem Tools.uniform_of_others
    (others : ∀ css other : Key, (∀ value, css ≠ .text value) → css.same other →
      tools.run (.flatten css) = tools.run (.flatten other)) : tools.Uniform := by
  intro css other same
  cases css with
  | text value => rw [Key.eq_of_same_text same]
  | _ => exact others _ other nofun same

/-- What a service says to a question when nothing is at hand. -/
def Tools.reply (tools : Tools Id) (question : Question) : question.Reply :=
  (Session.answer {} tools question).1

/-- The result of a request that is alone with a fresh session. -/
def Tools.buildAlone (limit : Nat) (tools : Tools Id) (request : Request) :
    Except Failure Result :=
  ((build (Services.ofTools limit tools) request).run {} : Id _).1

/-! ## What a session keeps -/

/-- A sheet that is kept is at hand. -/
theorem ask_kept {css : Key} {flat : Textual} (found : session.styles.find? css = some flat) :
    session.ask (.flatten css) =
      (.reply (.ok flat),
        { session with styles.hits := session.styles.hits + 1 }) := by
  simp only [Session.ask, Style.Memory.turn, found]

/-- A sheet that is with the tool is waited for. -/
theorem ask_busy {css : Key} (missing : session.styles.find? css = none)
    (busy : session.styles.inFlight.any css.same = true) :
    session.ask (.flatten css) =
      (.wait, { session with styles.waits := session.styles.waits + 1 }) := by
  simp only [Session.ask, Style.Memory.turn, missing, busy, if_true]

/-- Any other sheet goes to the tool. -/
theorem ask_free {css : Key} (missing : session.styles.find? css = none)
    (free : ¬session.styles.inFlight.any css.same = true) :
    session.ask (.flatten css) =
      (.leave,
        { session with
          styles.misses := session.styles.misses + 1
          styles.inFlight := css :: session.styles.inFlight }) := by
  simp only [Session.ask, Style.Memory.turn, missing, if_neg free]

/-- What comes of a question: the opening, and the session behind it. -/
inductive Asks (session : Session) : (question : Question) → Opening question → Session → Prop where
  /-- A sheet is kept. -/
  | kept {css : Key} {flat : Textual} (found : session.styles.find? css = some flat) :
      Asks session (.flatten css) (.reply (.ok flat))
        { session with styles.hits := session.styles.hits + 1 }
  /-- A sheet is with the tool for another. -/
  | busy {css : Key} (missing : session.styles.find? css = none)
      (busy : session.styles.inFlight.any css.same = true) :
      Asks session (.flatten css) .wait
        { session with styles.waits := session.styles.waits + 1 }
  /-- A sheet goes to the tool. -/
  | free {css : Key} (missing : session.styles.find? css = none)
      (free : ¬session.styles.inFlight.any css.same = true) :
      Asks session (.flatten css) .leave
        { session with
          styles.misses := session.styles.misses + 1
          styles.inFlight := css :: session.styles.inFlight }
  /-- A text is kept. -/
  | fetched {url text : Text} (found : session.cache.find? url = some text) :
      Asks session (.fetch url) (.reply (.ok text))
        { session with cache.hits := session.cache.hits + 1 }
  /-- A text is requested. -/
  | missing {url : Text} (missing : session.cache.find? url = none) :
      Asks session (.fetch url) .leave
        { session with cache.misses := session.cache.misses + 1 }
  /-- The compiler is always asked. -/
  | compile {source : Textual} {options : Component.Options} {moduleId : Option Text} :
      Asks session (.compile source options moduleId) .leave session
  /-- The linker is always asked. -/
  | link {payload : Json} : Asks session (.link payload) .leave session

/-- A question is asked in one of these ways. -/
theorem asks_of_ask {question : Question} {opening : Opening question}
    (asked : session.ask question = (opening, later)) : Asks session question opening later := by
  cases question with
  | flatten css =>
    cases found : session.styles.find? css with
    | some flat =>
      rw [ask_kept found] at asked
      cases asked
      exact .kept found
    | none =>
      by_cases busy : session.styles.inFlight.any css.same = true
      · rw [ask_busy found busy] at asked
        cases asked
        exact .busy found busy
      · rw [ask_free found busy] at asked
        cases asked
        exact .free found busy
  | fetch url =>
    simp only [Session.ask, Module.Cache.lookUp] at asked
    cases found : session.cache.find? url with
    | some text =>
      rw [found] at asked
      cases asked
      exact .fetched found
    | none =>
      rw [found] at asked
      cases asked
      exact .missing found
  | compile source options moduleId =>
    cases asked
    exact .compile
  | link payload =>
    cases asked
    exact .link

/-- What the compiler makes of a result does not depend on what it has counted. -/
theorem result_of_counts (fields : Record) (counts others : Component.Counts) :
    (Component.ofResult fields counts).1 = (Component.ofResult fields others).1 := by
  unfold Component.ofResult
  cases (Record.get fields "warnings").asItems with
  | error cause => rfl
  | ok warnings =>
    simp only
    cases Component.badWarning? warnings <;> rfl

/-- What the compiler makes of an answer does not depend on what it has counted. -/
theorem answer_of_counts (answer : Except Failure Json) (moduleId : Option Text)
    (counts others : Component.Counts) :
    (Component.ofAnswer answer moduleId counts).1 =
      (Component.ofAnswer answer moduleId others).1 := by
  cases answer with
  | error failure => rfl
  | ok value =>
    cases value with
    | obj fields =>
      simp only [Component.ofAnswer]
      split
      · exact result_of_counts fields counts others
      · rfl
    | _ => rfl

/-- The reply to a question does not depend on the session. -/
theorem answer_reply (session : Session) (tools : Tools Id) (question : Question) :
    (session.answer tools question).1 = tools.reply question := by
  cases question with
  | flatten css => rfl
  | fetch url =>
    simp only [Tools.reply, Session.answer, Module.Cache.receive]
    cases tools.request url with
    | error reason => cases reason <;> rfl
    | ok response => simp only; split <;> rfl
  | compile source options moduleId =>
    cases source with
    | other value => rfl
    | text source => exact answer_of_counts _ moduleId session.counts {}
  | link payload => rfl

/-- Whether everything a session keeps is what the services would reply. -/
structure Session.Right (session : Session) (tools : Tools Id) : Prop where
  /-- The flattened style sheets. -/
  sheets : ∀ entry ∈ session.styles.entries, tools.reply (.flatten entry.1) = .ok entry.2
  /-- The fetched modules. -/
  texts : ∀ entry ∈ session.cache.entries, tools.reply (.fetch entry.1) = .ok entry.2

namespace Session.Right

/-- A fresh session keeps nothing. -/
theorem fresh (tools : Tools Id) : Session.Right {} tools where
  sheets _ kept := nomatch kept
  texts _ kept := nomatch kept

/-- What is found for a sheet is what the tool would reply. -/
theorem sheet_found (right : session.Right tools) (uniform : tools.Uniform) {css : Key}
    {flat : Textual} (found : session.styles.find? css = some flat) :
    tools.reply (.flatten css) = .ok flat := by
  obtain ⟨entry, place, rfl⟩ := Option.map_eq_some_iff.mp found
  have matched := List.find?_some place
  have same : entry.1.same css := matched
  rw [← right.sheets entry (List.mem_of_find?_eq_some place)]
  exact congrArg Style.ofAnswer (uniform entry.1 css same).symm

/-- What is found for an address is what the network would reply. -/
theorem text_found (right : session.Right tools) {url text : Text}
    (found : session.cache.find? url = some text) : tools.reply (.fetch url) = .ok text := by
  obtain ⟨entry, place, rfl⟩ := Option.map_eq_some_iff.mp found
  have matched := List.find?_some place
  have same : entry.1 = url := eq_of_beq matched
  rw [← right.texts entry (List.mem_of_find?_eq_some place), same]

/-- A session stays right when it takes in an answer of the tool for sheets. -/
theorem finish (right : session.Right tools) (styles : Style.Memory) (css : Key)
    (kept : styles.entries = session.styles.entries) :
    Session.Right
      { session with styles := styles.finish css (tools.reply (.flatten css)) } tools := by
  refine ⟨fun entry known => ?_, right.texts⟩
  cases reply : tools.reply (.flatten css) with
  | error error =>
    rw [reply] at known
    exact right.sheets entry (kept ▸ known)
  | ok flat =>
    simp only [reply, Style.Memory.finish, Style.Memory.keep] at known
    split at known
    · exact right.sheets entry (kept ▸ known)
    · simp only [List.mem_append, List.mem_filter, List.mem_singleton] at known
      rcases known with ⟨old, _⟩ | rfl
      · exact right.sheets entry (kept ▸ old)
      · exact reply

/-- A session stays right when it takes in a response. -/
theorem receive (right : session.Right tools) (cache : Module.Cache) (url : Text)
    (kept : cache.entries = session.cache.entries) :
    Session.Right { session with cache := (cache.receive url (tools.request url)).2 } tools := by
  refine ⟨right.sheets, fun entry known => ?_⟩
  have whole : (cache.receive url (tools.request url)).1 = tools.reply (.fetch url) :=
    answer_reply { session with cache } tools (.fetch url)
  cases request : tools.request url with
  | error reason =>
    rw [request] at known
    cases reason <;> exact right.texts entry (kept ▸ known)
  | ok response =>
    simp only [request, Module.Cache.receive] at known whole
    split at known
    · rename_i success
      rw [if_pos success] at whole
      simp only [Module.Cache.store] at known
      split at known
      · obtain ⟨old, member, rfl⟩ := List.mem_map.mp known
        by_cases same : (old.1 == url) = true
        · rw [if_pos same]
          exact whole.symm
        · rw [if_neg same]
          exact right.texts old (kept ▸ member)
      · rcases List.mem_append.mp known with old | new
        · exact right.texts entry (kept ▸ old)
        · cases List.mem_singleton.mp new
          exact whole.symm
    · exact right.texts entry (kept ▸ known)

/-- A session stays right with any answer. -/
theorem answer (right : session.Right tools) (question : Question) :
    (session.answer tools question).2.Right tools := by
  cases question with
  | flatten css => exact right.finish session.styles css rfl
  | fetch url => exact right.receive session.cache url rfl
  | compile source options moduleId => exact ⟨right.sheets, right.texts⟩
  | link payload => exact right

/-- A session stays right with any question. -/
theorem ask (right : session.Right tools) {question : Question} {opening : Opening question}
    (asked : session.ask question = (opening, later)) : later.Right tools := by
  cases asks_of_ask asked with
  | kept found => exact ⟨right.sheets, right.texts⟩
  | busy missing busy => exact ⟨right.sheets, right.texts⟩
  | free missing free => exact ⟨right.sheets, right.texts⟩
  | fetched found => exact ⟨right.sheets, right.texts⟩
  | missing missing => exact ⟨right.sheets, right.texts⟩
  | compile => exact right
  | link => exact right

/-- What is at hand is what the services would reply. -/
theorem at_hand (right : session.Right tools) (uniform : tools.Uniform) {question : Question}
    {value : question.Reply} (asked : session.ask question = (.reply value, later)) :
    value = tools.reply question := by
  cases asks_of_ask asked with
  | kept found => exact (right.sheet_found uniform found).symm
  | fetched found => exact (right.text_found found).symm

end Session.Right

/-! ## Sheets with the tool -/

/-- Keys that are the same as a third are the same as each other. -/
theorem same_of_same {first second third : Key} (left : first.same third)
    (right : second.same third) : second.same first := by
  have left : first.canonical = third.canonical := eq_of_beq left
  have right : second.canonical = third.canonical := eq_of_beq right
  exact beq_iff_eq.mpr (right.trans left.symm)

/-- A reply at hand changes nothing about the sheets with the tool. -/
theorem inFlight_of_reply {question : Question} {value : question.Reply}
    (asked : session.ask question = (.reply value, later)) :
    later.styles.inFlight = session.styles.inFlight := by
  cases asks_of_ask asked with
  | kept found => rfl
  | fetched found => rfl

/-- Who has to wait asks for a sheet that is with the tool. -/
theorem inFlight_of_wait {question : Question} (asked : session.ask question = (.wait, later)) :
    later.styles.inFlight = session.styles.inFlight ∧
      ∃ css, question = .flatten css ∧ session.styles.inFlight.any css.same = true := by
  cases asks_of_ask asked with
  | busy missing busy => exact ⟨rfl, _, rfl, busy⟩

/-- Who goes to the tool takes along the sheet asked for, and no other. -/
theorem inFlight_of_leave {question : Question} (asked : session.ask question = (.leave, later))
    (css : Key) :
    css ∈ later.styles.inFlight ↔ question = .flatten css ∨ css ∈ session.styles.inFlight := by
  cases asks_of_ask asked with
  | free missing free => simp only [List.mem_cons, Question.flatten.injEq, eq_comm]
  | missing missing => simp
  | compile => simp
  | link => simp

/-- An answer takes back the sheet that was asked for, and no other. -/
theorem inFlight_of_answer (question : Question) (css : Key) :
    css ∈ (session.answer tools question).2.styles.inFlight ↔
      css ∈ session.styles.inFlight ∧ question.sameSheet (.flatten css) = false := by
  cases question with
  | flatten sheet =>
    have back : (session.styles.finish sheet (tools.reply (.flatten sheet))).inFlight =
        session.styles.inFlight.filter (!sheet.same ·) := by
      simp only [Style.Memory.finish]
      cases tools.reply (.flatten sheet) with
      | error error => rfl
      | ok flat =>
        simp only [Style.Memory.keep]
        split <;> rfl
    change css ∈ (session.styles.finish sheet (tools.reply (.flatten sheet))).inFlight ↔ _
    simp [back, Question.sameSheet]
  | fetch url => exact (and_iff_left rfl).symm
  | compile source options moduleId => exact (and_iff_left rfl).symm
  | link payload => exact (and_iff_left rfl).symm

/-! ## What is served at once -/

/-- While no sheet is with the tool, a question is served at once: what is not at hand is asked
of the service, and its answer is taken in. -/
theorem serve_eq (limit : Nat) (question : Question) (idle : session.styles.inFlight = []) :
    (((Services.ofTools limit tools).answer question).run session : Id _) =
      match session.ask question with
      | (.reply value, later) => (value, later)
      | (.wait, later) => later.answer tools question
      | (.leave, later) => later.answer tools question := by
  cases question with
  | flatten css =>
    let process : Id (Except BuildError Textual × Style.Memory) :=
      Style.process (fun sheet => tools.run (.flatten sheet)) session.styles css
    change (process.1, { session with styles := process.2 }) = _
    cases found : session.styles.find? css with
    | some flat =>
      have kept : process =
          (.ok flat, { session.styles with hits := session.styles.hits + 1 }) := by
        simp only [process, Style.process, found]
        rfl
      rw [ask_kept found, kept]
      rfl
    | none =>
      let counted := { session.styles with misses := session.styles.misses + 1 }
      have made : process = (tools.reply (.flatten css),
          counted.finish css (tools.reply (.flatten css))) := by
        simp only [process, Style.process, found]
        rfl
      have taken : ({ counted with inFlight := css :: counted.inFlight }).finish css
          (tools.reply (.flatten css)) = counted.finish css (tools.reply (.flatten css)) := by
        simp [Style.Memory.finish, Key.same]
      rw [ask_free found (by simp [idle]), made, ← taken]
      rfl
  | fetch url =>
    let fetch : Id (Except Failure Text × Module.Cache) :=
      session.cache.fetch tools.request url
    change (fetch.1, { session with cache := fetch.2 }) = _
    simp only [fetch, Module.Cache.fetch, Session.ask, Module.Cache.lookUp]
    cases session.cache.find? url <;> rfl
  | compile source options moduleId => rfl
  | link payload => rfl

/-- What is served at once is what the services would reply, and the session stays right. -/
theorem Session.Right.serve (right : session.Right tools) (uniform : tools.Uniform)
    (idle : session.styles.inFlight = []) (limit : Nat) (question : Question) :
    let result : Id (question.Reply × Session) :=
      ((Services.ofTools limit tools).answer question).run session
    result.1 = tools.reply question ∧ result.2.Right tools ∧
      result.2.styles.inFlight = [] := by
  intro result
  have served : result = _ := serve_eq limit question idle
  cases asked : session.ask question with
  | mk opening later =>
    rw [asked] at served
    cases opening with
    | reply value =>
      rw [served]
      exact ⟨right.at_hand uniform asked, right.ask asked, (inFlight_of_reply asked).trans idle⟩
    | wait =>
      obtain ⟨_, css, _, busy⟩ := inFlight_of_wait asked
      simp [idle] at busy
    | leave =>
      rw [served]
      refine ⟨answer_reply later tools question, (right.ask asked).answer question, ?_⟩
      apply List.eq_nil_iff_forall_not_mem.mpr
      intro css member
      obtain ⟨known, apart⟩ := (inFlight_of_answer question css).mp member
      rcases (inFlight_of_leave asked css).mp known with rfl | before
      · simp [Question.sameSheet, Key.same] at apart
      · rw [idle] at before
        cases before

/-! ## What comes of a course -/

namespace Course

/-- What a course comes to when every question gets the reply of the services. -/
def outcome (tools : Tools Id) {α : Type} : Course α → α
  | .done value => value
  | .ask question next => (next (tools.reply question)).outcome tools

/-- The number of questions until then. -/
def length (tools : Tools Id) {α : Type} : Course α → Nat
  | .done _ => 0
  | .ask question next => (next (tools.reply question)).length tools + 1

/-- A course that is performed at once, with a session that is right, comes to its outcome. -/
theorem perform_outcome (right : session.Right tools) (uniform : tools.Uniform)
    (idle : session.styles.inFlight = []) (limit : Nat) {α : Type} (course : Course α) :
    let result : Id (α × Session) :=
      (course.perform (Services.ofTools limit tools)).run session
    result.1 = course.outcome tools := by
  induction course generalizing session with
  | done value => rfl
  | ask question next tail =>
    obtain ⟨replied, kept, idle⟩ := right.serve uniform idle limit question
    let served : Id (question.Reply × Session) :=
      ((Services.ofTools limit tools).answer question).run session
    let rest (reply : question.Reply) : Id (α × Session) :=
      ((next reply).perform (Services.ofTools limit tools)).run served.2
    change (rest served.1).1 = (next (tools.reply question)).outcome tools
    rw [show served.1 = tools.reply question from replied]
    exact tail (tools.reply question) kept idle

/-- A request that is alone comes to the outcome of its course. -/
theorem outcome_ofRequest (uniform : tools.Uniform) (limit : Nat) (request : Request) :
    (ofRequest limit request).outcome tools = tools.buildAlone limit request := by
  have whole := perform_ofRequest (Services.ofTools limit tools) request
  have course := perform_outcome (Session.Right.fresh tools) uniform rfl limit
    (ofRequest limit request)
  rw [← course]
  exact congrArg (fun action => (action.run ({} : Session) : Id _).1) whole

end Course
end SiteBuild.Build
