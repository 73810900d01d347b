import Mathlib.Data.List.Induction
import SqlComposer.Dialect.Known
import SqlComposer.Proofs.Inversion
import SqlComposer.Proofs.Rendering
import SqlComposer.Script.Session

/-!
# The dialect in use

Whatever calls are made on a registry, each setting of the dialect that it holds is the one that the
last accepted call concerned with it gave. Whether a call is accepted does not depend on the dialect
that it changes, and a call that is refused changes nothing.
-/

namespace SqlComposer

variable {databases : Databases}

/-! ## Options -/

/-- A dialect with what an option decides taken from the dialect `given`. That of a database brings
everything but the binding of counts. -/
def DialectOption.put (option : DialectOption) (given d : Dialect) : Dialect :=
  match option with
  | .placeholder => { d with style := given.style }
  | .quote => { d with opening := given.opening, closing := given.closing }
  | .countBinding => { d with bindsCounts := given.bindsCounts }
  | .database => { given with bindsCounts := d.bindsCounts }

theorem Dialect.withOption_eq (d : Dialect) (named value : Value) :
    d.withOption databases named value = do
      let option ← DialectOption.ofValue named
      let given ← standard.withOption databases named value
      return option.put given d := by
  unfold withOption
  cases DialectOption.ofValue named with
  | error cause => rfl
  | ok option =>
      simp only [bind, Except.bind]
      cases option with
      | placeholder => cases PlaceholderStyle.ofValue value <;> rfl
      | quote => cases quotesOf value <;> rfl
      | countBinding => cases switchOf named value <;> rfl
      | database => cases ofDatabase databases value <;> rfl

/-! ## Calls -/

namespace RegistryCall

/-- A use is proper if it is given a dialect or a name, and all other calls are. -/
def IsProper : RegistryCall → Prop
  | .use choice => choice.name?.isSome ∨ ∃ d serial, choice = .dialect d serial
  | _ => True

/-- The dialect that a call makes of the default one, if it is accepted there. -/
def given? (databases : Databases) (c : RegistryCall) : Option Dialect :=
  match c.apply databases .standardDialect with
  | .ok (.dialect d _) => some d
  | _ => none

/-- Whether a call is about one of the options, as all are that install a whole dialect. -/
def concerns (options : List DialectOption) : RegistryCall → Bool
  | .setOption named _ =>
    match DialectOption.ofValue named with
    | .ok option => option ∈ options
    | .error _ => false
  | .use _ | .reset => true

/-- A dialect with what a call decides taken from the dialect `given`. -/
def put (c : RegistryCall) (given d : Dialect) : Dialect :=
  match c with
  | .setOption named _ =>
    match DialectOption.ofValue named with
    | .ok option => option.put given d
    | .error _ => d
  | .use _ | .reset => given

theorem apply_setOption (named value : Value) (d : Dialect) (serial : Serial) :
    (setOption named value).apply databases (.dialect d serial) = do
      return .dialect (← d.withOption databases named value) 0 := rfl

theorem apply_use {choice : Value} (hname : choice.name?.isSome) (inUse : Value) :
    (use choice).apply databases inUse = do
      return .dialect (← Dialect.ofDatabase databases choice) 0 := by
  simp only [apply, if_pos hname]

/-- A proper call is refused under every dialect for the same cause, or it is accepted under every
dialect and decides the same things in the same way. -/
theorem apply_dialect {c : RegistryCall} (hc : c.IsProper) (d : Dialect) (serial : Serial) :
    (∃ cause, c.apply databases (.dialect d serial) = .error cause ∧
        c.apply databases .standardDialect = .error cause) ∨
      ∃ given after, c.given? databases = some given ∧
        c.apply databases (.dialect d serial) = .ok (.dialect (c.put given d) after) := by
  cases c with
  | setOption named value =>
      simp only [given?, put, Value.standardDialect, apply_setOption]
      rw [Dialect.withOption_eq d]
      cases hoption : DialectOption.ofValue named with
      | error cause =>
          rw [Dialect.withOption_eq, hoption]
          exact .inl ⟨cause, rfl, rfl⟩
      | ok option =>
          cases Dialect.standard.withOption databases named value with
          | error cause => exact .inl ⟨cause, rfl, rfl⟩
          | ok given => exact .inr ⟨given, 0, rfl, rfl⟩
  | use choice =>
      rcases hc with hname | ⟨installed, after, rfl⟩
      · simp only [given?, apply_use hname]
        cases Dialect.ofDatabase databases choice with
        | error cause => exact .inl ⟨cause, rfl, rfl⟩
        | ok given => exact .inr ⟨given, 0, rfl, rfl⟩
      · exact .inr ⟨installed, after, rfl, rfl⟩
  | reset => exact .inr ⟨.standard, 1, rfl, rfl⟩

/-- What is in use after a call. A refused call changes nothing. -/
def after (databases : Databases) (c : RegistryCall) (inUse : Value) : Value :=
  match c.apply databases inUse with
  | .ok after => after
  | .error _ => inUse

end RegistryCall

/-- What is in use after calls, refused ones included. -/
def Value.afterRegistryCalls (databases : Databases) (inUse : Value) (calls : List RegistryCall) :
    Value :=
  calls.foldl (fun inUse c => c.after databases inUse) inUse

/-! ## Settings -/

/-- A part of dialects, and the options that decide it. -/
structure Setting (α : Type) where
  part : Dialect → α
  options : List DialectOption
  part_put : ∀ option given d,
    part (option.put given d) = if option ∈ options then part given else part d

namespace Setting

def style : Setting Value where
  part d := d.style
  options := [.placeholder, .database]
  part_put option _ _ := by cases option <;> rfl

/-- Opening and closing quotes are only ever set together. -/
def quotes : Setting (Value × Value) where
  part d := (d.opening, d.closing)
  options := [.quote, .database]
  part_put option _ _ := by cases option <;> rfl

/-- The dialect of a database has no say in whether counts are bound. -/
def bindsCounts : Setting Value where
  part d := d.bindsCounts
  options := [.countBinding]
  part_put option _ _ := by cases option <;> rfl

def name : Setting Value where
  part d := d.name
  options := [.database]
  part_put option _ _ := by cases option <;> rfl

variable {α : Type} (s : Setting α)

/-- The setting that the last accepted of the calls that concern it gives, or the default. -/
def lastGiven (databases : Databases) (calls : List RegistryCall) : α :=
  let given := (calls.filter (·.concerns s.options)).filterMap (·.given? databases)
  s.part (given.getLastD .standard)

theorem lastGiven_concat (calls : List RegistryCall) (c : RegistryCall) :
    s.lastGiven databases (calls ++ [c]) =
      match c.given? databases with
      | some given => if c.concerns s.options then s.part given else s.lastGiven databases calls
      | none => s.lastGiven databases calls := by
  unfold lastGiven
  rw [List.filter_append, List.filterMap_append]
  by_cases hconcerns : c.concerns s.options
  · cases hgiven : c.given? databases <;> simp [hgiven, hconcerns]
  · cases c.given? databases <;> simp [hconcerns]

theorem part_put_call (c : RegistryCall) (given d : Dialect) :
    s.part (c.put given d) = if c.concerns s.options then s.part given else s.part d := by
  cases c with
  | setOption named value =>
      cases hoption : DialectOption.ofValue named with
      | ok option =>
          simp only [RegistryCall.put, RegistryCall.concerns, hoption, decide_eq_true_eq]
          exact s.part_put option given d
      | error cause => simp [RegistryCall.put, RegistryCall.concerns, hoption]
  | use choice | reset => rfl

end Setting

theorem Value.settings_afterRegistryCalls (calls : List RegistryCall)
    (hcalls : ∀ c ∈ calls, c.IsProper) :
    ∃ d serial, standardDialect.afterRegistryCalls databases calls = .dialect d serial ∧
      ∀ {α : Type} (s : Setting α), s.part d = s.lastGiven databases calls := by
  induction calls using List.reverseRecOn with
  | nil => exact ⟨.standard, 1, rfl, fun _ => rfl⟩
  | append_singleton calls c ih =>
      obtain ⟨d, serial, hinUse, hsettings⟩ :=
        ih fun c hc => hcalls c (List.mem_append_left _ hc)
      have hproper := hcalls c (List.mem_append_right _ (List.mem_singleton_self c))
      have hlast : standardDialect.afterRegistryCalls databases (calls ++ [c]) =
          c.after databases (.dialect d serial) := by
        rw [← hinUse]
        exact List.foldl_append
      rw [hlast]
      unfold RegistryCall.after
      rcases RegistryCall.apply_dialect hproper d serial with
        ⟨cause, hrefused, hstandard⟩ | ⟨given, after, hgiven, haccepted⟩
      · rw [hrefused]
        have hnone : c.given? databases = none := by rw [RegistryCall.given?, hstandard]
        refine ⟨d, serial, rfl, fun s => ?_⟩
        rw [s.lastGiven_concat, hnone, hsettings]
      · rw [haccepted]
        refine ⟨_, after, rfl, fun s => ?_⟩
        rw [s.lastGiven_concat, hgiven, s.part_put_call, hsettings]

/-! ## Refusals -/

/-- Whether a refusal says that an option or its value is not supported. -/
def OptionError.isUnsupported : OptionError → Bool
  | .partMissing _ _ => false
  | _ => true

/-- A result that is only carried on with is refused for the cause for which it is not given. -/
theorem OptionError.of_return {α β : Type} {checked : Except OptionError α} {f : α → β}
    {cause : OptionError} (h : (do return f (← checked)) = Except.error cause) :
    checked = .error cause := by
  cases checked with
  | ok a => cases h
  | error refused =>
      cases h
      rfl

/-- A fault of a library itself, which is another one than that it knows no database. -/
def Database.ownFault? {α : Type} : Except Database.Fault α → Option OptionError
  | .error (.lacking value part) => some (.partMissing value part)
  | _ => none

/-- The fault that a library has itself for a value in the place of a name. -/
def Value.fault? (databases : Databases) (given : Value) : Option OptionError :=
  given.visibleName?.bind fun name => Database.ownFault? (databases.quotesFor name.text)

theorem Dialect.ofDatabase_refused {given : Value} {cause : OptionError}
    (h : ofDatabase databases given = .error cause) :
    cause = (given.fault? databases).getD (.unknownDialect given) := by
  unfold ofDatabase at h
  unfold Value.fault?
  cases hname : given.visibleName? with
  | none =>
      rw [hname] at h
      cases h
      rfl
  | some name =>
      simp only [hname, Option.bind_some] at h ⊢
      cases hfound : databases.quotesFor name.text with
      | ok quotes =>
          rw [hfound] at h
          cases h
      | error fault =>
          cases fault <;> rw [hfound] at h <;> cases h <;> rfl

/-- The name of the database whose dialect a call asks for. -/
def RegistryCall.database? : RegistryCall → Option Value
  | .setOption named value =>
    match DialectOption.ofValue named with
    | .ok .database => some value
    | _ => none
  | .use choice => if choice.name?.isSome then some choice else none
  | .reset => none

def RegistryCall.fault? (databases : Databases) (c : RegistryCall) : Option OptionError :=
  c.database?.bind (·.fault? databases)

section Checks

variable {given : Value} {cause : OptionError}

theorem DialectOption.ofValue_refused (h : ofValue given = .error cause) : cause.isUnsupported := by
  unfold ofValue at h
  split at h
  · split at h <;> cases h
    rfl
  · cases h
    rfl

theorem PlaceholderStyle.ofValue_refused (h : ofValue given = .error cause) :
    cause.isUnsupported := by
  unfold ofValue at h
  split at h
  · cases h
  · split at h <;> cases h
    rfl
  · cases h
    rfl

theorem quotesOf_refused (h : quotesOf given = .error cause) : cause.isUnsupported := by
  unfold quotesOf at h
  split at h
  · cases h
  · split at h
    · cases h
    · split at h <;> cases h
      rfl
    · cases h
      rfl
  · cases h
    rfl

theorem switchOf_refused {named : Value} (h : switchOf named given = .error cause) :
    cause.isUnsupported := by
  unfold switchOf at h
  split at h <;> cases h
  rfl

end Checks

theorem Dialect.isUnsupported_of_ofDatabase {given : Value} {cause : OptionError}
    (h : ofDatabase databases given = .error cause) :
    match given.fault? databases with
    | some fault => cause = fault
    | none => cause.isUnsupported := by
  rw [ofDatabase_refused h]
  cases given.fault? databases <;> rfl

/-- A proper call is refused as unsupported, unless the library has a fault of its own. -/
theorem RegistryCall.apply_refused {c : RegistryCall} (hc : c.IsProper) {d : Dialect}
    {serial : Serial} {cause : OptionError}
    (h : c.apply databases (.dialect d serial) = .error cause) :
    match c.fault? databases with
    | some fault => cause = fault
    | none => cause.isUnsupported := by
  cases c with
  | setOption named value =>
      rw [apply_setOption] at h
      have hset := OptionError.of_return h
      unfold Dialect.withOption at hset
      cases hoption : DialectOption.ofValue named with
      | error refused =>
          rw [hoption] at hset
          cases hset
          simpa [fault?, database?, hoption] using DialectOption.ofValue_refused hoption
      | ok option =>
          rw [hoption] at hset
          simp only [fault?, database?, hoption]
          cases option with
          | placeholder => exact PlaceholderStyle.ofValue_refused (OptionError.of_return hset)
          | quote => exact quotesOf_refused (OptionError.of_return hset)
          | countBinding => exact switchOf_refused (OptionError.of_return hset)
          | database => exact Dialect.isUnsupported_of_ofDatabase (OptionError.of_return hset)
  | use choice =>
      rcases hc with hname | ⟨installed, after, rfl⟩
      · rw [apply_use hname] at h
        simp only [fault?, database?, if_pos hname]
        exact Dialect.isUnsupported_of_ofDatabase (OptionError.of_return h)
      · cases h
  | reset => cases h

namespace Script

theorem writing_run {α : Type} (write : Session → Writing α) (s : Session) :
    (writing write).run.run s =
      match (write s).run s.progress with
      | .ok a progress => (.ok a, { s with progress })
      | .error fault progress => (.error fault, { s with progress }) := by
  have hget : (ExceptT.run (get : Eval Session)).run s = pure (.ok s, s) := rfl
  simp only [writing, ExceptT.run_bind, StateT.run_bind, hget, pure_bind]
  cases (write s).run s.progress <;> rfl

theorem writing_error {α : Type} {write : Session → Writing α} {s : Session} {fault : Fault}
    {progress : Progress} (h : (write s).run s.progress = .error fault progress) :
    (writing write).run.run s = (.error fault, { s with progress }) := by
  rw [writing_run, h]

theorem writing_state {α : Type} (write : Session → Writing α) (s : Session) :
    ∃ progress, ((writing write).run.run s).2 = { s with progress } := by
  rw [writing_run]
  cases (write s).run s.progress with
  | ok a progress => exact ⟨progress, rfl⟩
  | error fault progress => exact ⟨progress, rfl⟩

/-- A registry that refuses a call stays as it is, and so does everything else in the session but
what happens while the message is put together. -/
theorem callRegistry_refused {s : Session} {number : Nat} {call : RegistryCall}
    {cause : OptionError} (h : call.apply databases (s.registry number) = .error cause)
    {fault : Fault} {progress : Progress}
    (hrefuse : (Writing.refuseOption (s.store.shown s.text {}) cause : Writing Value).run
      s.progress = .error fault progress) :
    (callRegistry databases number call).run.run s = (.error fault, { s with progress }) := by
  have hstop : (orRefuseOption (call.apply databases (s.registry number))).run.run s =
      (.error fault, { s with progress }) := by
    rw [h]
    exact writing_error hrefuse
  show (do
    let after ← orRefuseOption (call.apply databases (s.registry number))
    _ : Eval Value).run.run s = _
  simp only [ExceptT.run_bind, StateT.run_bind, hstop]
  rfl

theorem callRegistry_accepted {s : Session} {number : Nat} {call : RegistryCall} {after : Value}
    (h : call.apply databases (s.registry number) = .ok after) :
    let issued := (issue after).run s
    ∃ progress, ((callRegistry databases number call).run.run s).2 =
      { issued.2 with registries := issued.2.registries.set number issued.1, progress } := by
  intro issued
  let changed : Session :=
    { issued.2 with registries := issued.2.registries.set number issued.1 }
  have hrun : (callRegistry databases number call).run.run s = (do
      let message ← writing fun s => (changeMessage issued.1 call).text (s.store.shown s.text {})
      addLine dialectLogger message
      return .null : Eval Value).run.run changed := by
    unfold callRegistry
    show (do
      let after ← orRefuseOption (call.apply databases (s.registry number))
      _ : Eval Value).run.run s = _
    rw [h]
    rfl
  obtain ⟨progress, hmessage⟩ := writing_state
    (fun s => (changeMessage issued.1 call).text (s.store.shown s.text {})) changed
  rw [hrun]
  simp only [ExceptT.run_bind, StateT.run_bind]
  rcases hresult : (writing fun s =>
      (changeMessage issued.1 call).text (s.store.shown s.text {})).run.run changed
    with ⟨result, middle⟩
  rw [hresult] at hmessage
  obtain rfl : middle = { changed with progress } := hmessage
  cases result with
  | error fault => exact ⟨progress, rfl⟩
  | ok message =>
      obtain ⟨last, hline⟩ := writing_state
        (fun _ => Writing.addLine dialectLogger message) { changed with progress }
      exact ⟨last, hline⟩

end Script

theorem Writing.refuseOption_run {α : Type} (shown : Value → Writing String) (cause : OptionError)
    (before : Progress) :
    ∃ fault after, (Writing.refuseOption shown cause : Writing α).run before = .error fault after ∧
      (cause.isUnsupported →
        (∃ message, fault = .option cause message) ∨
          (cause.message.text shown).run before = .error fault after) := by
  unfold Writing.refuseOption
  split
  · exact ⟨_, _, rfl, nofun⟩
  · rw [Writing.bind_run]
    cases h : (cause.message.text shown).run before with
    | ok message after => exact ⟨_, _, rfl, fun _ => .inl ⟨_, rfl⟩⟩
    | error fault after => exact ⟨_, _, rfl, fun _ => .inr rfl⟩

theorem Dialect.bindsCounts_of_ofDatabase {given : Value} {d : Dialect}
    (h : ofDatabase databases given = .ok d) : d.bindsCounts = .bool false := by
  obtain ⟨database, quotes, -, rfl⟩ := exists_of_ofDatabase h
  rfl

/-! ## Switched folding strategies -/

/-- Whether a version that may be missing is understood, and a folding strategy is switched on where
one should be named. -/
def Database.switchFolding (settings : List (List Char × Setting)) : Bool :=
  isGoodVersion (lastUnder "version" settings) &&
    lastUnder "normalization_strategy" settings = some .switch

/-- Whether a value names a known database and switches its folding strategy on. -/
def Value.switchesFolding (given : Value) : Bool :=
  match given.visibleName? with
  | none => false
  | some name =>
    let (first, settings) := Text.split (· == ',') name.text.toList
    (Database.quotes? (String.ofList (Text.trimChars first))).isSome &&
      Database.switchFolding (settings.map Database.setting)

def RegistryCall.switchesFolding (c : RegistryCall) : Bool :=
  c.database?.any Value.switchesFolding

theorem Database.ownFault?_checkSettings (settings : List (List Char × Setting)) :
    ownFault? (checkSettings settings) =
      if switchFolding settings then some (.partMissing (.bool true) "upper") else none := by
  unfold checkSettings switchFolding
  cases isGoodVersion (lastUnder "version" settings) with
  | false => rfl
  | true =>
      by_cases hswitch : lastUnder "normalization_strategy" settings = some .switch
      · simp [hswitch, ownFault?]
      · simp only [Bool.not_true, Bool.false_eq_true, if_false, hswitch, Bool.true_and,
          decide_false]
        split <;> rfl

/-- The table has one fault of its own: a truth value is asked for its upper case where the folding
strategy of a known database is switched on. -/
theorem Value.fault?_known (given : Value) :
    given.fault? .known =
      if given.switchesFolding then some (.partMissing (.bool true) "upper") else none := by
  unfold fault? switchesFolding
  cases given.visibleName? with
  | none => rfl
  | some name =>
      rcases hsplit : Text.split (· == ',') name.text.toList with ⟨first, settings⟩
      simp only [Option.bind_some, Databases.known, Database.quotesFor, hsplit]
      cases Database.quotes? (String.ofList (Text.trimChars first)) with
      | none => rfl
      | some quotes =>
          have hsettings := Database.ownFault?_checkSettings (settings.map Database.setting)
          rw [Option.isSome_some, Bool.true_and, ← hsettings]
          cases Database.checkSettings (settings.map Database.setting) with
          | ok checked => rfl
          | error fault => cases fault <;> rfl

theorem RegistryCall.fault?_known (c : RegistryCall) :
    c.fault? .known =
      if c.switchesFolding then some (.partMissing (.bool true) "upper") else none := by
  unfold fault? switchesFolding
  cases c.database? with
  | none => rfl
  | some given => exact given.fault?_known

/-! ## The last call wins -/

/-- Whatever proper calls are made on a registry that holds the defaults, each setting of its
dialect is the one of the last accepted call that sets it, and whether a call is accepted does not
depend on the dialect in use. A refused call leaves the registry as it was. It fails as unsupported,
or with a fault that the library of databases has itself, or because the value cannot be shown. -/
theorem last_call_wins (databases : Databases) {calls : List RegistryCall}
    (hcalls : ∀ c ∈ calls, c.IsProper) :
    (∃ d serial, Value.standardDialect.afterRegistryCalls databases calls = .dialect d serial ∧
        d.style = Setting.style.lastGiven databases calls ∧
        (d.opening, d.closing) = Setting.quotes.lastGiven databases calls ∧
        d.bindsCounts = Setting.bindsCounts.lastGiven databases calls ∧
        d.name = Setting.name.lastGiven databases calls) ∧
    (∀ (c : RegistryCall) (given : Dialect), c.given? databases = some given →
      (c = .reset ∨ ∃ choice, c = .use choice ∧ choice.name?.isSome) →
        given.bindsCounts = .bool false) ∧
    (∀ c : RegistryCall, c.fault? .known =
      if c.switchesFolding then some (.partMissing (.bool true) "upper") else none) ∧
    ∀ (c : RegistryCall), c.IsProper →
      ∀ (s : Script.Session) (number : Nat) (d : Dialect) (serial : Serial),
        s.registry number = .dialect d serial →
        (∀ after, c.apply databases (.dialect d serial) = .ok after →
          (c.given? databases).isSome ∧
          ∃ progress, ((Script.callRegistry databases number c).run.run s).2 =
            { ((Script.issue after).run s).2 with
              registries := ((Script.issue after).run s).2.registries.set number
                ((Script.issue after).run s).1
              progress }) ∧
        ∀ cause, c.apply databases (.dialect d serial) = .error cause →
          c.given? databases = none ∧
          (match c.fault? databases with
            | some fault => cause = fault
            | none => cause.isUnsupported) ∧
          ∃ fault progress,
            (Script.callRegistry databases number c).run.run s =
              (.error fault, { s with progress }) ∧
            (cause.isUnsupported → (∃ message, fault = .option cause message) ∨
              (cause.message.text (s.store.shown s.text {})).run s.progress =
                .error fault progress) := by
  refine ⟨?_, ?_, RegistryCall.fault?_known, ?_⟩
  · obtain ⟨d, serial, hinUse, hsettings⟩ := Value.settings_afterRegistryCalls calls hcalls
    exact ⟨d, serial, hinUse, hsettings .style, hsettings .quotes, hsettings .bindsCounts,
      hsettings .name⟩
  · rintro c given hgiven (rfl | ⟨choice, rfl, hname⟩)
    · cases hgiven
      rfl
    · simp only [RegistryCall.given?, RegistryCall.apply_use hname] at hgiven
      cases hnamed : Dialect.ofDatabase databases choice with
      | ok d =>
          rw [hnamed] at hgiven
          cases hgiven
          exact Dialect.bindsCounts_of_ofDatabase hnamed
      | error cause =>
          rw [hnamed] at hgiven
          cases hgiven
  · intro c hc s number d serial hholds
    constructor
    · intro after hafter
      refine ⟨?_, Script.callRegistry_accepted (hholds ▸ hafter)⟩
      rcases RegistryCall.apply_dialect hc d serial with
        ⟨cause, hrefused, -⟩ | ⟨given, _, hgiven, -⟩
      · cases hafter.symm.trans hrefused
      · exact Option.isSome_of_eq_some hgiven
    · intro cause hcause
      obtain ⟨fault, progress, hrefuse, hfault⟩ :=
        Writing.refuseOption_run (α := Value) (s.store.shown s.text {}) cause s.progress
      refine ⟨?_, RegistryCall.apply_refused hc hcause, fault, progress,
        Script.callRegistry_refused (hholds ▸ hcause) hrefuse, hfault⟩
      rcases RegistryCall.apply_dialect hc d serial with
        ⟨refused, hrefused, hstandard⟩ | ⟨given, after, -, haccepted⟩
      · rw [RegistryCall.given?, hstandard]
      · cases hcause.symm.trans haccepted

/-- Every option set in turn, a database whose dialect keeps only the binding of counts, and two
calls that are refused. -/
def mixedRegistryCalls : List RegistryCall :=
  let set (option : String) (value : Value) : RegistryCall := .setOption (.ofText option) value
  [.reset, set "placeholder" (.ofText "?"), set "quoteChar" (.ofText "["),
    set "parameterize_limits" (.bool true), set "dialect" (.ofText "mysql"),
    set "placeholder" (.ofText ":"), set "colour" .null, set "quote_char" (.ofText "ab")]

theorem last_call_wins_mixed :
    (∀ c ∈ mixedRegistryCalls, c.IsProper) ∧
      ∃ d serial, Value.standardDialect.afterRegistryCalls .known mixedRegistryCalls =
          .dialect d serial ∧
        d.style? = some .colon ∧ d.opening.name? = some (.plain "\x60") ∧
        d.closing.name? = some (.plain "\x60") ∧ d.countsAreBound ∧
        d.name.name? = some (.plain "mysql") := by
  have hproper : ∀ c ∈ mixedRegistryCalls, c.IsProper := by
    simp [mixedRegistryCalls, RegistryCall.IsProper]
  obtain ⟨d, serial, hinUse, hstyle, hquotes, hbindsCounts, hname⟩ :=
    (last_call_wins .known hproper).1
  obtain ⟨hopening, hclosing⟩ := Prod.mk.inj hquotes
  refine ⟨hproper, d, serial, hinUse, ?_, ?_, ?_, ?_, ?_⟩
  · rw [Dialect.style?, hstyle]
    decide +kernel
  · rw [hopening]
    decide +kernel
  · rw [hclosing]
    decide +kernel
  · rw [Dialect.countsAreBound, hbindsCounts]
    decide +kernel
  · rw [hname]
    decide +kernel

/-- A value of the dialect option is refused, and not as unsupported. -/
theorem folding_switch_not_unsupported :
    let c := RegistryCall.setOption (.ofText "dialect") (.ofText "mysql, normalization_strategy")
    c.IsProper ∧ ∃ cause, c.apply .known .standardDialect = .error cause ∧
      cause = .partMissing (.bool true) "upper" ∧ cause.isUnsupported = false := by
  intro c
  refine ⟨trivial, ?_⟩
  have hrefused : (c.apply .known .standardDialect).isOk = false := by decide +kernel
  have hswitches : c.switchesFolding := by decide +kernel
  cases hcause : c.apply .known .standardDialect with
  | ok after =>
      rw [hcause] at hrefused
      cases hrefused
  | error cause =>
      have hupper := RegistryCall.apply_refused (c := c) trivial hcause
      rw [c.fault?_known, if_pos hswitches] at hupper
      exact ⟨cause, rfl, hupper, hupper ▸ rfl⟩

end SqlComposer
