import SiteBuild.Module.Cache

/-!
# Entries under fetches that take turns

Fetches from one cache take turns: a call looks for the text, and where there is none, its request
is under way until a response comes. A run is any sequence of calls and responses, and responses
for one address may differ. An entry is never lost and shows the text that came last
(`find?_run`), and what a fetch returns is the entry of that moment (`returned_step`). Main
statement: once a fetch has returned, its text stays for as long as the requests for it that are
still under way bring no other (`entry_stays_iff`); one that does replaces it
(`returned_text_is_replaced`).
-/
namespace SiteBuild.Module

namespace Cache

/-- Setting the text of one address leaves the texts of the others. -/
theorem find?_store (cache : Cache) (url text other : Text) :
    (cache.store url text).find? other = if other = url then some text else cache.find? other := by
  unfold store
  split
  · rename_i known
    let replace (entry : Text × Text) : Text × Text :=
      if entry.1 == url then (url, text) else entry
    -- The address of an entry stays, so the same entry is found, with its text replaced or not.
    have address (entry : Text × Text) : (replace entry).1 = entry.1 := by
      by_cases here : entry.1 = url <;> simp [replace, here]
    have sameEntry : (cache.entries.map replace).find? (fun entry => entry.1 == other) =
        (cache.entries.find? fun entry => entry.1 == other).map replace := by
      rw [List.find?_map]
      simp only [Function.comp_def, address]
    change ((cache.entries.map replace).find? fun entry => entry.1 == other).map Prod.snd = _
    rw [sameEntry, find?]
    cases found : cache.entries.find? fun entry => entry.1 == other with
    | none =>
      have differ : other ≠ url := by
        rintro rfl
        rw [find?, found] at known
        cases known
      simp [differ]
    | some entry =>
      have here : entry.1 = other := by simpa using List.find?_some found
      subst here
      by_cases same : entry.1 = url <;> simp [replace, same]
  · rename_i missing
    have missing : (cache.entries.find? fun entry => entry.1 == url) = none := by
      simpa only [find?, Option.isSome_map, Option.not_isSome_iff_eq_none] using missing
    by_cases same : other = url
    · subst same
      simp only [find?, List.find?_append, missing]
      simp
    · simp [find?, List.find?_append, same, Ne.symm same]

end Cache

/-! ## Calls and responses -/

/-- A fetch of a text. -/
structure Fetch where
  /-- The address. -/
  url : Text
  /-- What came of it; nothing while its request is under way. -/
  result? : Option (Except Failure Text)
  deriving Repr

/-- A cache and the fetches from it. -/
structure Traffic where
  /-- The cache. -/
  cache : Cache := {}
  /-- The fetches, in the order of their calls. -/
  fetches : List Fetch := []
  deriving Repr

namespace Traffic

/-- What can happen. -/
inductive Event where
  /-- A text is asked for. -/
  | call (url : Text)
  /-- The request of a fetch comes to its end. -/
  | reply (number : Nat) (reply : Except NoResponse Response)
  deriving Repr

/-- The traffic after an event, if the event can happen. -/
def step? (traffic : Traffic) : Event → Option Traffic
  | .call url =>
    let (found, cache) := traffic.cache.lookUp url
    some ⟨cache, traffic.fetches ++ [⟨url, found.map .ok⟩]⟩
  | .reply number reply =>
    match traffic.fetches[number]? with
    | some ⟨url, none⟩ =>
      let (result, cache) := traffic.cache.receive url reply
      some ⟨cache, traffic.fetches.set number ⟨url, some result⟩⟩
    | _ => none

/-- The traffic after events, if they can happen one after the other. -/
def run? (traffic : Traffic) : List Event → Option Traffic
  | [] => some traffic
  | event :: rest => (traffic.step? event).bind fun next => next.run? rest

/-- Whether a fetch has returned a text for an address. -/
def Returned (traffic : Traffic) (number : Nat) (url text : Text) : Prop :=
  traffic.fetches[number]? = some ⟨url, some (.ok text)⟩

/-- The number of requests for an address that are under way. -/
def underWay (traffic : Traffic) (url : Text) : Nat :=
  traffic.fetches.countP fun fetch => fetch.url == url && fetch.result?.isNone

/-- The text that an event brings for an address. -/
def arrival? (traffic : Traffic) (url : Text) : Event → Option Text
  | .reply number (.ok response) =>
    if isSuccess response.status && (traffic.fetches[number]?.map Fetch.url) == some url then
      some response.text
    else none
  | _ => none

/-- The texts that events bring for an address, in order. -/
def arrivals (traffic : Traffic) (url : Text) : List Event → List Text
  | [] => []
  | event :: rest =>
    (traffic.arrival? url event).toList ++
      ((traffic.step? event).map fun next => next.arrivals url rest).getD []

variable {traffic next later : Traffic} {url text : Text}

/-- A fetch while no other is about is a call and at most one response. -/
theorem run?_fetch (request : Text → Id (Except NoResponse Response)) (cache : Cache)
    (url : Text) :
    ∃ events result last, ({ cache } : Traffic).run? events = some ⟨last, [⟨url, some result⟩]⟩ ∧
      (cache.fetch request url : Id _) = (result, last) := by
  cases found : cache.find? url with
  | some text =>
    refine ⟨[.call url], .ok text, { cache with hits := cache.hits + 1 }, ?_, ?_⟩
    · simp [run?, step?, Cache.lookUp, found]
    · simp only [Cache.fetch, Cache.lookUp, found]
      rfl
  | none =>
    let asked := { cache with misses := cache.misses + 1 }
    refine ⟨[.call url, .reply 0 (request url)], (asked.receive url (request url)).1,
      (asked.receive url (request url)).2, ?_, ?_⟩
    · simp [run?, step?, Cache.lookUp, found, asked]
    · simp only [Cache.fetch, Cache.lookUp, found]
      rfl

/-! ## Single events -/

/-- What an event does to the traffic. -/
inductive Goes : Traffic → Event → Traffic → Prop where
  /-- The text is at hand. -/
  | found {cache : Cache} {fetches : List Fetch} {url text : Text}
      (known : cache.find? url = some text) :
      Goes ⟨cache, fetches⟩ (.call url)
        ⟨{ cache with hits := cache.hits + 1 }, fetches ++ [⟨url, some (.ok text)⟩]⟩
  /-- The text is requested. -/
  | sent {cache : Cache} {fetches : List Fetch} {url : Text} (missing : cache.find? url = none) :
      Goes ⟨cache, fetches⟩ (.call url)
        ⟨{ cache with misses := cache.misses + 1 }, fetches ++ [⟨url, none⟩]⟩
  /-- The text comes. -/
  | arrived {cache : Cache} {before after : List Fetch} {url : Text} {response : Response}
      (success : isSuccess response.status = true) :
      Goes ⟨cache, before ++ ⟨url, none⟩ :: after⟩ (.reply before.length (.ok response))
        ⟨cache.store url response.text, before ++ ⟨url, some (.ok response.text)⟩ :: after⟩
  /-- The request fails. -/
  | failed {cache other : Cache} {before after : List Fetch} {url : Text} {failure : Failure}
      {reply : Except NoResponse Response} (entries : other.entries = cache.entries)
      (noText : ∀ response, reply = .ok response → isSuccess response.status = false) :
      Goes ⟨cache, before ++ ⟨url, none⟩ :: after⟩ (.reply before.length reply)
        ⟨other, before ++ ⟨url, some (.error failure)⟩ :: after⟩

/-- An event does one of these. -/
theorem goes_of_step {event : Event} (happens : traffic.step? event = some next) :
    Goes traffic event next := by
  obtain ⟨cache, fetches⟩ := traffic
  cases event with
  | call url =>
    simp only [step?, Cache.lookUp] at happens
    cases known : cache.find? url with
    | some text =>
      rw [known] at happens
      cases happens
      exact .found known
    | none =>
      rw [known] at happens
      cases happens
      exact .sent known
  | reply number reply =>
    simp only [step?] at happens
    split at happens
    · rename_i url place
      cases happens
      obtain ⟨bound, here⟩ := List.getElem?_eq_some_iff.mp place
      have whole : fetches =
          fetches.take number ++ ⟨url, none⟩ :: fetches.drop (number + 1) := by
        rw [← here, ← List.drop_eq_getElem_cons bound, List.take_append_drop]
      have length : (fetches.take number).length = number := by simp; omega
      rw [List.set_eq_take_append_cons_drop, if_pos bound]
      generalize fetches.take number = before at whole length
      generalize fetches.drop (number + 1) = after at whole
      subst whole length
      cases reply with
      | error reason => cases reason <;> exact .failed rfl (by simp)
      | ok response =>
        simp only [Cache.receive]
        cases success : isSuccess response.status with
        | true => exact .arrived success
        | false =>
          refine .failed rfl ?_
          rintro other same
          cases same
          exact success
    · cases happens

/-- A request that fails brings no text. -/
theorem arrival?_of_failed {reply : Except NoResponse Response}
    (noText : ∀ response, reply = .ok response → isSuccess response.status = false)
    (number : Nat) : traffic.arrival? url (.reply number reply) = none := by
  cases reply with
  | error reason => rfl
  | ok response => simp [arrival?, noText response rfl]

/-- An entry shows the text that came last. -/
theorem find?_step {event : Event} (happens : traffic.step? event = some next) :
    next.cache.find? url = (traffic.arrival? url event).or (traffic.cache.find? url) := by
  cases goes_of_step happens with
  | found known => rfl
  | sent missing => rfl
  | @arrived cache before after asked response success =>
    by_cases same : asked = url
    · simp [arrival?, success, same, Cache.find?_store]
    · simp [arrival?, success, same, Ne.symm same, Cache.find?_store]
  | failed entries noText =>
    rw [arrival?_of_failed noText, Option.none_or, Cache.find?, Cache.find?, entries]

/-- When one item of a list is replaced, the others are where they were. -/
theorem getElem?_replaced {α : Type} {before after : List α} {old new item : α} {place : Nat}
    (found : (before ++ new :: after)[place]? = some item) :
    (before ++ old :: after)[place]? = some item ∨ new = item := by
  rcases Nat.lt_trichotomy place before.length with first | here | behind
  · simp_all [List.getElem?_append]
  · simp_all
  · obtain ⟨more, rfl⟩ := Nat.exists_eq_add_of_lt behind
    simp_all [List.getElem?_append, Nat.add_assoc]

/-- When an item is added to a list, the others are where they were. -/
theorem getElem?_added {α : Type} {items : List α} {new item : α} {place : Nat}
    (found : (items ++ [new])[place]? = some item) : items[place]? = some item ∨ new = item := by
  rw [List.getElem?_append] at found
  split at found
  · exact .inl found
  · exact .inr (List.mem_singleton.mp (List.mem_of_getElem? found)).symm

/-- What a fetch returns is the entry of that moment. -/
theorem returned_step {event : Event} (happens : traffic.step? event = some next) {number : Nat}
    (returned : next.Returned number url text) :
    traffic.Returned number url text ∨ next.cache.find? url = some text := by
  cases goes_of_step happens with
  | found known =>
    refine (getElem?_added returned).imp id fun new => ?_
    cases new
    exact known
  | sent missing =>
    refine (getElem?_added returned).imp id fun new => ?_
    cases new
  | arrived success =>
    refine (getElem?_replaced returned).imp id fun new => ?_
    cases new
    rw [Cache.find?_store, if_pos rfl]
  | failed entries noText =>
    refine (getElem?_replaced returned).imp id fun new => ?_
    cases new

/-- What a fetch has returned, it has returned for good. -/
theorem Returned.step {event : Event} {number : Nat} (returned : traffic.Returned number url text)
    (happens : traffic.step? event = some next) : next.Returned number url text := by
  have added {fetches : List Fetch} {new : Fetch}
      (found : fetches[number]? = some ⟨url, some (.ok text)⟩) :
      (fetches ++ [new])[number]? = some ⟨url, some (.ok text)⟩ := by
    rw [List.getElem?_append_left (List.getElem?_eq_some_iff.mp found).1, found]
  have replaced {before after : List Fetch} {address : Text} {new : Fetch}
      (found : (before ++ ⟨address, none⟩ :: after)[number]? = some ⟨url, some (.ok text)⟩) :
      (before ++ new :: after)[number]? = some ⟨url, some (.ok text)⟩ :=
    (getElem?_replaced found).resolve_right (by simp)
  cases goes_of_step happens with
  | found known => exact added returned
  | sent missing => exact added returned
  | arrived success => exact replaced returned
  | failed entries noText => exact replaced returned

/-- While there is an entry for an address, no request for it is begun, and every text that comes
ends one. -/
theorem underWay_step {event : Event} (known : (traffic.cache.find? url).isSome)
    (happens : traffic.step? event = some next) :
    (traffic.arrival? url event).toList.length + next.underWay url ≤ traffic.underWay url := by
  cases goes_of_step happens with
  | found known => simp [arrival?, underWay]
  | @sent cache fetches asked missing =>
    have differ : asked ≠ url := by
      rintro rfl
      simp [missing] at known
    simp [arrival?, underWay, differ]
  | @arrived cache before after asked response success =>
    by_cases same : asked = url
    · simp [arrival?, success, same, underWay]
      omega
    · simp [arrival?, success, same, underWay]
  | failed entries noText =>
    rw [arrival?_of_failed noText]
    simp [underWay, List.countP_cons]

/-! ## Runs -/

/-- An entry shows the text that came last. -/
theorem find?_run {events : List Event} (runs : traffic.run? events = some later) :
    later.cache.find? url = (traffic.arrivals url events).getLast?.or (traffic.cache.find? url) := by
  induction events generalizing traffic with
  | nil =>
    cases runs
    rfl
  | cons event rest tail =>
    obtain ⟨next, happens, runs⟩ := Option.bind_eq_some_iff.mp runs
    rw [tail runs, find?_step happens, arrivals, happens, List.getLast?_append, Option.or_assoc]
    cases traffic.arrival? url event <;> rfl

/-- Once there is an entry for an address, no more texts come for it than requests are under
way. -/
theorem length_arrivals_le {events : List Event} (known : (traffic.cache.find? url).isSome)
    (runs : traffic.run? events = some later) :
    (traffic.arrivals url events).length ≤ traffic.underWay url := by
  induction events generalizing traffic with
  | nil => exact Nat.zero_le _
  | cons event rest tail =>
    obtain ⟨next, happens, runs⟩ := Option.bind_eq_some_iff.mp runs
    have kept : (next.cache.find? url).isSome := by
      rw [find?_step happens, Option.isSome_or, known, Bool.or_true]
    have here := underWay_step known happens
    have others := tail kept runs
    rw [arrivals, happens, List.length_append]
    change _ + (next.arrivals url rest).length ≤ _
    omega

/-- Whether the entry of an address stays a text while events happen, and all fetches from it that
end meanwhile return that text. -/
def Stays (traffic : Traffic) (url text : Text) (events : List Event) : Prop :=
  ∀ before between, before <+: events → traffic.run? before = some between →
    between.cache.find? url = some text ∧
      ∀ number other, between.Returned number url other →
        traffic.Returned number url other ∨ other = text

/-- An entry stays through an event and what happens behind it. -/
theorem stays_cons {event : Event} {rest : List Event} (happens : traffic.step? event = some next)
    (known : traffic.cache.find? url = some text) :
    traffic.Stays url text (event :: rest) ↔
      next.cache.find? url = some text ∧ next.Stays url text rest := by
  have run_cons (events : List Event) : traffic.run? (event :: events) = next.run? events := by
    rw [run?, happens]
    rfl
  constructor
  · intro stays
    refine ⟨(stays [event] next (by simp) (run_cons [])).1, fun before between first runs => ?_⟩
    obtain ⟨entry, returns⟩ := stays (event :: before) between
      (List.cons_prefix_cons.mpr ⟨rfl, first⟩) ((run_cons before).trans runs)
    exact ⟨entry, fun number other returned =>
      (returns number other returned).imp (·.step happens) id⟩
  · rintro ⟨entry, stays⟩ before between first runs
    cases before with
    | nil =>
      cases runs
      exact ⟨known, fun number other returned => .inl returned⟩
    | cons other before =>
      obtain ⟨rfl, others⟩ := List.cons_prefix_cons.mp first
      obtain ⟨later, returns⟩ := stays before between others ((run_cons before).symm.trans runs)
      refine ⟨later, fun number other returned => ?_⟩
      rcases returns number other returned with old | same
      · refine (returned_step happens old).imp id fun now => ?_
        exact Option.some.inj (now.symm.trans entry)
      · exact .inr same

/-- An entry stays exactly as long as no other text comes for its address. -/
theorem stays_iff {events : List Event} (known : traffic.cache.find? url = some text)
    (runs : traffic.run? events = some later) :
    traffic.Stays url text events ↔ ∀ other ∈ traffic.arrivals url events, other = text := by
  induction events generalizing traffic with
  | nil =>
    refine iff_of_true (fun before between first runs => ?_) (by simp [arrivals])
    cases List.prefix_nil.mp first
    cases runs
    exact ⟨known, fun number other returned => .inl returned⟩
  | cons event rest tail =>
    obtain ⟨next, happens, runs⟩ := Option.bind_eq_some_iff.mp runs
    have entry : next.cache.find? url = some text ↔
        ∀ other ∈ (traffic.arrival? url event).toList, other = text := by
      rw [find?_step happens, known]
      cases traffic.arrival? url event <;> simp
    rw [stays_cons happens known, arrivals, happens]
    simp only [Option.map_some, Option.getD_some, List.forall_mem_append]
    rw [entry]
    refine and_congr_right fun same => tail (entry.mpr same) runs

/-- **Entries that stay.** From the moment a fetch has returned a text, the entry of its address is
never lost, and no more texts come for it than requests are under way at that moment. The entry
stays that text, and all fetches from it that end later return it too, exactly if no other text is
among them. -/
theorem entry_stays_iff {earlier traffic later : Traffic} {event : Event} {number : Nat}
    {url text : Text} {events : List Event} (happens : earlier.step? event = some traffic)
    (fresh : ¬earlier.Returned number url text) (returned : traffic.Returned number url text)
    (runs : traffic.run? events = some later) :
    later.cache.find? url = some ((traffic.arrivals url events).getLastD text) ∧
      (traffic.arrivals url events).length ≤ traffic.underWay url ∧
      (traffic.Stays url text events ↔ ∀ other ∈ traffic.arrivals url events, other = text) := by
  have known : traffic.cache.find? url = some text :=
    (returned_step happens returned).resolve_left fresh
  refine ⟨?_, length_arrivals_le (by rw [known]; rfl) runs, stays_iff known runs⟩
  rw [find?_run runs, known, List.getLastD_eq_getLast?]
  cases (traffic.arrivals url events).getLast? <;> rfl

/-- The address of a module that two fetches ask for before there is an entry. -/
def contested : Text := "https://esm.sh/a.js"

/-- The response with a text. -/
def bringing (text : Text) : Except NoResponse Response := .ok { status := 200, text := text }

/-- Two fetches, the first of which has returned: the second brings the same text, and a third one
finds it. -/
theorem entry_stays_same_text :
    ∃ earlier traffic later : Traffic,
      ({} : Traffic).run? [.call contested, .call contested] = some earlier ∧
        earlier.step? (.reply 0 (bringing "one")) = some traffic ∧
        traffic.run? [.reply 1 (bringing "one"), .call contested] = some later ∧
        later.cache.find? contested = some "one" ∧
        traffic.Stays contested "one" [.reply 1 (bringing "one"), .call contested] := by
  obtain ⟨earlier, traffic, later, begun, happens, runs, fresh, returned, only⟩ :
      ∃ earlier traffic later : Traffic,
        ({} : Traffic).run? [.call contested, .call contested] = some earlier ∧
          earlier.step? (.reply 0 (bringing "one")) = some traffic ∧
          traffic.run? [.reply 1 (bringing "one"), .call contested] = some later ∧
          earlier.fetches = [⟨contested, none⟩, ⟨contested, none⟩] ∧
          traffic.Returned 0 contested "one" ∧
          traffic.arrivals contested [.reply 1 (bringing "one"), .call contested] =
            [Text.ofString "one"] :=
    ⟨_, _, _, rfl, rfl, rfl, rfl, rfl, rfl⟩
  obtain ⟨entry, -, stays⟩ :=
    entry_stays_iff happens (by simp [Returned, fresh]) returned runs
  refine ⟨earlier, traffic, later, begun, happens, runs, ?_, stays.mpr ?_⟩
  · rw [entry, only]
    rfl
  · rw [only]
    simp

/-- A text that a fetch has returned is replaced: two fetches ask before there is an entry, the
first returns one text, and the second brings another, which it returns and later fetches find,
though they may be for the same page as the first. -/
theorem returned_text_is_replaced :
    ∃ traffic later : Traffic,
      ({} : Traffic).run?
          [.call contested, .call contested, .reply 0 (bringing "one")] = some traffic ∧
        traffic.Returned 0 contested "one" ∧ traffic.cache.find? contested = some "one" ∧
        traffic.run? [.reply 1 (bringing "two"), .call contested] = some later ∧
        later.cache.find? contested = some "two" ∧ later.Returned 1 contested "two" ∧
        later.Returned 2 contested "two" :=
  ⟨_, _, rfl, rfl, rfl, rfl, rfl, rfl, rfl⟩

end Traffic
end SiteBuild.Module
