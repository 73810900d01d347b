import SqlComposer.Log.Tree

/-!
# Loggers in the tree

A name that is asked for gives a logger of the tree that is set up by its root, unless it starts
with the root's name and goes on without a dot. What is set on the root counts for the loggers that
have the root on their way up, and for no others.
-/

namespace SqlComposer

/-! ## Names -/

/-- The name of the root, or one that starts with it and a dot. -/
def IsInTree (name : String) : Prop :=
  name = rootLogger ∨ (rootLogger ++ ".").toList <+: name.toList

instance (name : String) : Decidable (IsInTree name) :=
  inferInstanceAs (Decidable (_ ∨ _))

/-- The name starts with that of the root, and something other than a dot follows. -/
def RunsOn (name : String) : Prop :=
  ∃ c rest, c ≠ '.' ∧ name.toList = rootLogger.toList ++ c :: rest

/-- The name of the root, some dots, and what is behind them. -/
def behindRoot (dots : Nat) (rest : List Char) : String :=
  String.ofList (rootLogger.toList ++ (List.replicate dots '.' ++ rest))

section Names

variable {name : String} {dots : Nat} {rest : List Char}

theorem toList_behindRoot (dots : Nat) (rest : List Char) :
    (behindRoot dots rest).toList = rootLogger.toList ++ (List.replicate dots '.' ++ rest) :=
  String.toList_ofList

theorem behindRoot_nil : behindRoot 0 [] = rootLogger := by
  rw [behindRoot, List.replicate_zero, List.nil_append, List.append_nil, String.ofList_toList]

theorem reverse_behindRoot (dots : Nat) (rest : List Char) :
    (behindRoot dots rest).toList.reverse =
      rest.reverse ++ (behindRoot dots []).toList.reverse := by
  rw [toList_behindRoot, toList_behindRoot, List.append_nil, ← List.append_assoc,
    List.reverse_append]

theorem reverse_behindRoot_succ (dots : Nat) :
    (behindRoot (dots + 1) []).toList.reverse = '.' :: (behindRoot dots []).toList.reverse := by
  rw [toList_behindRoot, toList_behindRoot, List.append_nil, List.append_nil,
    List.replicate_succ', ← List.append_assoc, List.reverse_append]
  rfl

theorem ofList_reverse_behindRoot (dots : Nat) (part : List Char) :
    String.ofList (part ++ (behindRoot dots []).toList.reverse).reverse =
      behindRoot dots part.reverse := by
  rw [← List.reverse_reverse part, ← reverse_behindRoot, List.reverse_reverse,
    String.ofList_toList, List.reverse_reverse]

theorem exists_dots (cs : List Char) :
    ∃ dots rest, cs = List.replicate dots '.' ++ rest ∧ rest.head? ≠ some '.' := by
  induction cs with
  | nil => exact ⟨0, [], rfl, nofun⟩
  | cons c cs ih =>
      by_cases hc : c = '.'
      · obtain ⟨dots, rest, hcs, hrest⟩ := ih
        exact ⟨dots + 1, rest, by rw [hc, hcs]; rfl, hrest⟩
      · exact ⟨0, c :: cs, rfl, fun h => hc (Option.some.inj h)⟩

theorem exists_behindRoot (h : rootLogger.toList <+: name.toList) :
    ∃ dots rest, name = behindRoot dots rest ∧ rest.head? ≠ some '.' := by
  obtain ⟨behind, hname⟩ := h
  obtain ⟨dots, rest, hbehind, hrest⟩ := exists_dots behind
  refine ⟨dots, rest, ?_, hrest⟩
  rw [behindRoot, ← hbehind, hname, String.ofList_toList]

theorem isInTree_iff :
    IsInTree name ↔ name = rootLogger ∨ ∃ rest, name.toList = rootLogger.toList ++ '.' :: rest := by
  refine or_congr_right (exists_congr fun rest => ?_)
  rw [String.toList_append, List.append_assoc]
  exact eq_comm

theorem behindRoot_eq_root_iff : behindRoot dots rest = rootLogger ↔ dots = 0 ∧ rest = [] := by
  rw [← String.toList_inj, toList_behindRoot, List.append_right_eq_self, List.append_eq_nil_iff,
    List.replicate_eq_nil_iff]

theorem isInTree_of_dots (hdots : 0 < dots) (rest : List Char) :
    IsInTree (behindRoot dots rest) := by
  cases dots with
  | zero => cases hdots
  | succ dots =>
      refine isInTree_iff.mpr (.inr ⟨List.replicate dots '.' ++ rest, ?_⟩)
      rw [toList_behindRoot, List.replicate_succ, List.cons_append]

theorem isInTree_behindRoot (hrest : rest.head? ≠ some '.') :
    IsInTree (behindRoot dots rest) ↔ 0 < dots ∨ rest = [] := by
  cases dots with
  | zero =>
      rw [isInTree_iff, behindRoot_eq_root_iff, toList_behindRoot]
      simp only [List.replicate_zero, List.nil_append, List.append_cancel_left_eq, true_and,
        Nat.lt_irrefl, false_or, or_iff_left_iff_imp]
      rintro ⟨behind, rfl⟩
      exact absurd rfl hrest
  | succ dots =>
      exact iff_of_true (isInTree_of_dots (Nat.succ_pos dots) rest) (.inl (Nat.succ_pos dots))

theorem runsOn_behindRoot (hrest : rest.head? ≠ some '.') :
    RunsOn (behindRoot dots rest) ↔ ¬ IsInTree (behindRoot dots rest) := by
  rw [isInTree_behindRoot hrest, RunsOn, toList_behindRoot]
  simp only [List.append_cancel_left_eq]
  cases dots with
  | zero =>
      cases rest with
      | nil => simp
      | cons c rest =>
          have hc : c ≠ '.' := fun h => hrest (congrArg some h)
          simp [hc]
  | succ dots =>
      refine iff_of_false ?_ fun h => h (.inl (Nat.succ_pos dots))
      rintro ⟨c, behind, hc, h⟩
      exact hc (List.cons.inj h).1.symm

theorem loggerName_of_root {given : Name} (h : rootLogger.toList <+: given.text.toList) :
    loggerName (some given) = given.text := by
  rw [loggerName, if_pos (List.isPrefixOf_iff_prefix.mpr h)]
  cases given with
  | plain text => rfl
  | keyword word =>
      have hnone : ∀ word : Keyword, ¬ rootLogger.toList <+: word.text.toList := by
        rintro (kind | style)
        · cases kind <;> decide
        · cases style <;> decide
      exact absurd h (hnone word)

theorem loggerName_of_other {given : Name} (h : ¬ rootLogger.toList <+: given.text.toList) :
    loggerName (some given) = rootLogger ++ "." ++ given.display := by
  rw [loggerName, if_neg fun hroot => h (List.isPrefixOf_iff_prefix.mp hroot), String.append_assoc]

theorem root_prefix_loggerName (name : Option Name) :
    rootLogger.toList <+: (loggerName name).toList := by
  cases name with
  | none => exact List.prefix_rfl
  | some given =>
      by_cases h : rootLogger.toList <+: given.text.toList
      · rw [loggerName_of_root h]
        exact h
      · rw [loggerName_of_other h, String.append_assoc, String.toList_append]
        exact List.prefix_append _ _

theorem isInTree_loggerName (name : Option Name) :
    IsInTree (loggerName name) ↔ ∀ given, name = some given → ¬ RunsOn given.text := by
  cases name with
  | none => exact iff_of_true (.inl rfl) nofun
  | some given =>
      simp only [Option.some.injEq, forall_eq']
      by_cases h : rootLogger.toList <+: given.text.toList
      · obtain ⟨dots, rest, hname, hrest⟩ := exists_behindRoot h
        rw [loggerName_of_root h, hname, runsOn_behindRoot hrest, Classical.not_not]
      · refine iff_of_true (.inr ?_) ?_
        · rw [loggerName_of_other h, String.toList_append (s := rootLogger ++ ".")]
          exact List.prefix_append _ _
        · rintro ⟨c, rest, -, hname⟩
          exact h ⟨c :: rest, hname.symm⟩

theorem loggerName_again (name : Option Name) :
    loggerName (some (.plain (loggerName name))) = loggerName name :=
  loggerName_of_root (root_prefix_loggerName name)

end Names

/-! ## Ways up -/

namespace Loggers

/-- No logger is named by the root and some dots alone, fewer than the given number. -/
def HasNoneWithFewer (loggers : Loggers) (dots : Nat) : Prop :=
  ∀ fewer, 0 < fewer → fewer < dots → loggers.named (behindRoot fewer []) = none

section Search

variable {loggers others : Loggers}

theorem namesAbove_other {c : Char} (h : c ≠ '.') (front : List Char) :
    loggers.namesAbove (c :: front) = loggers.namesAbove front := by
  cases front with
  | nil => rfl
  | cons last front => rw [namesAbove, if_neg h]

theorem namesAbove_dot {front : List Char} (h : front ≠ []) :
    loggers.namesAbove ('.' :: front) =
      if (loggers.named (String.ofList front.reverse)).isSome then
        String.ofList front.reverse :: loggers.namesAbove front
      else loggers.namesAbove front.tail := by
  cases front with
  | nil => exact absurd rfl h
  | cons last front => rw [namesAbove, if_pos rfl, List.tail_cons]

theorem namesAbove_of_not_mem {cs : List Char} (h : '.' ∉ cs) : loggers.namesAbove cs = [] := by
  induction cs with
  | nil => rfl
  | cons c cs ih =>
      rw [List.mem_cons, not_or] at h
      rw [namesAbove_other (Ne.symm h.1), ih h.2]

/-- A search that reaches the characters of a shorter name goes on from there as it would have
started, unless it comes from a dot. What it finds before depends on the longer names only. -/
theorem namesAbove_append {tail : List Char}
    (hsame : ∀ back, back ≠ [] → (loggers.named (String.ofList (back ++ tail).reverse)).isSome =
      (others.named (String.ofList (back ++ tail).reverse)).isSome) :
    (back : List Char) → back.getLast? ≠ some '.' →
      ∃ below : List String,
        (∀ b ∈ below, ∃ part, part ≠ [] ∧ b = String.ofList (part ++ tail).reverse) ∧
          loggers.namesAbove (back ++ tail) = below ++ loggers.namesAbove tail ∧
          others.namesAbove (back ++ tail) = below ++ others.namesAbove tail
  | [], _ => ⟨[], nofun, rfl, rfl⟩
  | [c], h => by
      have hc : c ≠ '.' := fun hc => h (congrArg some hc)
      exact ⟨[], nofun, namesAbove_other hc tail, namesAbove_other hc tail⟩
  | c :: last :: front, h => by
      have hlast : (last :: front).getLast? ≠ some '.' := by
        rwa [List.getLast?_cons_cons] at h
      by_cases hc : c = '.'
      · subst hc
        have hne : last :: front ++ tail ≠ [] := nofun
        have hsome := hsame (last :: front) (List.cons_ne_nil last front)
        rw [List.cons_append, namesAbove_dot hne, namesAbove_dot hne, ← hsome]
        split
        · obtain ⟨below, hbelow, hfound, hfound'⟩ := namesAbove_append hsame (last :: front) hlast
          refine ⟨_ :: below, List.forall_mem_cons.mpr
            ⟨⟨last :: front, List.cons_ne_nil last front, rfl⟩, hbelow⟩, ?_, ?_⟩
          · rw [hfound]
            rfl
          · rw [hfound']
            rfl
        · refine namesAbove_append hsame front fun hdot => hlast ?_
          rw [List.getLast?_cons, hdot]
          rfl
      · rw [List.cons_append, namesAbove_other hc, namesAbove_other hc]
        exact namesAbove_append hsame (last :: front) hlast

/-- Of the dots behind the root, the search stops at every other one, so it comes to the root if
their number is odd. -/
theorem namesAbove_dots : (dots : Nat) → loggers.HasNoneWithFewer dots →
    loggers.namesAbove (behindRoot dots []).toList.reverse =
      if dots % 2 = 1 ∧ (loggers.named rootLogger).isSome then [rootLogger] else []
  | 0, _ => by
      rw [behindRoot_nil]
      exact namesAbove_of_not_mem (by decide)
  | 1, _ => by
      rw [reverse_behindRoot_succ, behindRoot_nil, namesAbove_dot (by decide),
        List.reverse_reverse, String.ofList_toList, namesAbove_of_not_mem (by decide),
        namesAbove_of_not_mem (by decide)]
      simp
  | dots + 2, h => by
      have hnone := h (dots + 1) (Nat.succ_pos dots) (Nat.lt_succ_self _)
      have hrest := namesAbove_dots dots fun fewer hpos hlt =>
        h fewer hpos (Nat.lt_add_right 2 hlt)
      have hne : (behindRoot (dots + 1) []).toList.reverse ≠ [] := by
        rw [reverse_behindRoot_succ]
        exact List.cons_ne_nil _ _
      rw [reverse_behindRoot_succ, namesAbove_dot hne, List.reverse_reverse, String.ofList_toList,
        hnone, reverse_behindRoot_succ, List.tail_cons, hrest, Nat.add_mod_right]
      rfl

end Search

section Put

variable {loggers : Loggers} {logger : Logger} {name other : String}

theorem get_put_self : (loggers.put name logger).get name = logger := by
  rw [get, put]
  simp only [if_true, Option.getD_some]

theorem get_put_of_ne (h : other ≠ name) :
    (loggers.put name logger).get other = loggers.get other := by
  rw [get, get, put]
  simp only [if_neg h]

end Put

end Loggers

namespace LogSettings

variable (settings : LogSettings) {loggers : Loggers} {dots : Nat} {rest : List Char}

theorem named_setUp_of_ne {name : String} (h : name ≠ rootLogger) :
    (settings.setUp loggers).named name = loggers.named name :=
  if_neg h

theorem map_get_setUp {below : List String} (h : ∀ b ∈ below, b ≠ rootLogger) :
    below.map (settings.setUp loggers).get = below.map loggers.get :=
  List.map_congr_left fun b hb => Loggers.get_put_of_ne (h b hb)

theorem wayUp_setUp_root :
    (settings.setUp loggers).wayUp rootLogger = [settings.rootSettings, loggers.top] := by
  rw [Loggers.wayUp, Loggers.namesAbove_of_not_mem (by decide), setUp, Loggers.get_put_self]
  rfl

theorem isSome_setUp_root : ((settings.setUp loggers).named rootLogger).isSome := by
  simp only [setUp, Loggers.put, if_true, Option.isSome_some]

theorem hasNoneWithFewer_setUp (h : loggers.HasNoneWithFewer dots) :
    (settings.setUp loggers).HasNoneWithFewer dots := by
  intro fewer hpos hlt
  have hother : behindRoot fewer [] ≠ rootLogger :=
    fun hroot => Nat.ne_of_gt hpos (behindRoot_eq_root_iff.mp hroot).1
  rw [named_setUp_of_ne settings hother, h fewer hpos hlt]

theorem namesAbove_setUp (hrest : rest.head? ≠ some '.') (hnone : loggers.HasNoneWithFewer dots) :
    ∃ below : List String,
      (∀ b ∈ below, b ≠ rootLogger ∧ ∃ part, b = behindRoot dots part) ∧
        (settings.setUp loggers).namesAbove (behindRoot dots rest).toList.reverse =
          below ++ (if dots % 2 = 1 then [rootLogger] else []) ∧
        (dots % 2 ≠ 1 → loggers.namesAbove (behindRoot dots rest).toList.reverse = below) := by
  have hne : ∀ part : List Char, part ≠ [] → behindRoot dots part.reverse ≠ rootLogger :=
    fun part hpart hroot => hpart (List.reverse_eq_nil_iff.mp (behindRoot_eq_root_iff.mp hroot).2)
  have hsame : ∀ part : List Char, part ≠ [] →
      ((settings.setUp loggers).named
          (String.ofList (part ++ (behindRoot dots []).toList.reverse).reverse)).isSome =
        (loggers.named
          (String.ofList (part ++ (behindRoot dots []).toList.reverse).reverse)).isSome := by
    intro part hpart
    rw [ofList_reverse_behindRoot, named_setUp_of_ne settings (hne part hpart)]
  obtain ⟨below, hbelow, hafter, hbefore⟩ :=
    Loggers.namesAbove_append hsame rest.reverse (List.getLast?_reverse ▸ hrest)
  have hdots := Loggers.namesAbove_dots dots (settings.hasNoneWithFewer_setUp hnone)
  refine ⟨below, fun b hb => ?_, ?_, fun heven => ?_⟩
  · obtain ⟨part, hpart, rfl⟩ := hbelow b hb
    rw [ofList_reverse_behindRoot]
    exact ⟨hne part hpart, part.reverse, rfl⟩
  · rw [reverse_behindRoot, hafter, hdots]
    simp only [isSome_setUp_root, and_true]
  · rw [reverse_behindRoot, hbefore, Loggers.namesAbove_dots dots hnone, if_neg fun h => heven h.1,
      List.append_nil]

theorem wayUp_setUp_of_odd (hrest : rest.head? ≠ some '.') (hodd : dots % 2 = 1)
    (hnone : loggers.HasNoneWithFewer dots) :
    ∃ below : List String, (∀ b ∈ below, b ≠ rootLogger ∧ ∃ part, b = behindRoot dots part) ∧
      (settings.setUp loggers).wayUp (behindRoot dots rest) =
        below.map loggers.get ++ [settings.rootSettings, loggers.top] := by
  obtain ⟨below, hbelow, hafter, -⟩ := namesAbove_setUp settings hrest hnone
  have hne : behindRoot dots rest ≠ rootLogger := by
    intro hroot
    rw [(behindRoot_eq_root_iff.mp hroot).1] at hodd
    cases hodd
  refine ⟨behindRoot dots rest :: below, List.forall_mem_cons.mpr ⟨⟨hne, rest, rfl⟩, hbelow⟩, ?_⟩
  rw [Loggers.wayUp, hafter, if_pos hodd, List.map_append,
    map_get_setUp settings fun b hb => (hbelow b hb).1, List.map_cons, List.map_nil, setUp,
    Loggers.get_put_of_ne hne, Loggers.get_put_self, List.map_cons]
  simp only [List.cons_append, List.append_assoc, List.nil_append]
  rfl

/-- With an even number of dots, setting up the root changes nothing on the way up of another
logger. -/
theorem wayUp_setUp_of_even (hrest : rest.head? ≠ some '.') (heven : dots % 2 ≠ 1)
    (hne : behindRoot dots rest ≠ rootLogger) (hnone : loggers.HasNoneWithFewer dots) :
    (settings.setUp loggers).wayUp (behindRoot dots rest) =
      loggers.wayUp (behindRoot dots rest) := by
  obtain ⟨below, hbelow, hafter, hbefore⟩ := namesAbove_setUp settings hrest hnone
  rw [Loggers.wayUp, Loggers.wayUp, hafter, hbefore heven, if_neg heven, List.append_nil,
    map_get_setUp settings fun b hb => (hbelow b hb).1, setUp, Loggers.get_put_of_ne hne]
  rfl

end LogSettings

/-! ## What the root decides -/

namespace Logger

variable {way behind : List Logger}

theorem levelAlong_append (h : ∀ logger ∈ way, logger.level = 0) :
    levelAlong (way ++ behind) = levelAlong behind := by
  induction way with
  | nil => rfl
  | cons logger way ih =>
      obtain ⟨hlevel, hway⟩ := List.forall_mem_cons.mp h
      rw [List.cons_append, levelAlong, if_pos hlevel, ih hway]

theorem handlersAlong_append (h : ∀ logger ∈ way, logger.propagates) :
    handlersAlong (way ++ behind) = way.flatMap handlers ++ handlersAlong behind := by
  induction way with
  | nil => rfl
  | cons logger way ih =>
      obtain ⟨hlogger, hway⟩ := List.forall_mem_cons.mp h
      rw [List.cons_append, handlersAlong, if_pos hlogger, ih hway, List.flatMap_cons,
        List.append_assoc]

end Logger

/-- What the settings leave on the root counts for a logger. The way up from it comes to the root,
past loggers of the tree with the given names: itself, unless it is the root, and those in between.
So the level is that of the root, unless one of those has a level of its own; the lines come to the
handlers of the settings, behind those of the loggers passed, unless one of them keeps the lines
back. If nothing is set on any of them, the handlers of the settings get the lines that the settings
show, and nothing else gets any. -/
structure LogSettings.Governs (settings : LogSettings) (loggers : Loggers) (passed : List String)
    (name : String) : Prop where
  inTree : ∀ b ∈ passed, b ≠ rootLogger ∧ IsInTree b
  wayUp : (settings.setUp loggers).wayUp name =
    passed.map loggers.get ++ [settings.rootSettings, loggers.top]
  level : (∀ b ∈ passed, (loggers.get b).level = 0) →
    (settings.setUp loggers).levelOf name = (settings.setUp loggers).levelOf rootLogger
  handlers : (∀ b ∈ passed, (loggers.get b).propagates) →
    (settings.setUp loggers).handlersOf name =
      passed.flatMap (fun b => (loggers.get b).handlers) ++ settings.handlers
  receivers : (∀ b ∈ passed, loggers.get b = {}) → loggers.top.level = LogLevel.warning.number →
    ∀ line : LogLine, line.logger = name → (settings.setUp loggers).receivers line =
      if (settings.shownLines [line]).isEmpty then [] else settings.handlers

namespace LogSettings

variable {settings : LogSettings} {loggers : Loggers} {passed : List String} {name : String}

theorem levelOf_setUp_root (htop : loggers.top.level = LogLevel.warning.number) :
    (settings.setUp loggers).levelOf rootLogger = settings.level.effective.number := by
  rw [Loggers.levelOf, wayUp_setUp_root]
  simp only [Logger.levelAlong, rootSettings, htop]
  cases settings.level <;> rfl

theorem Governs.of_wayUp (hpassed : ∀ b ∈ passed, b ≠ rootLogger ∧ IsInTree b)
    (hwayUp : (settings.setUp loggers).wayUp name =
      passed.map loggers.get ++ [settings.rootSettings, loggers.top]) :
    settings.Governs loggers passed name := by
  have hlevel : (∀ b ∈ passed, (loggers.get b).level = 0) →
      (settings.setUp loggers).levelOf name = (settings.setUp loggers).levelOf rootLogger := by
    intro h
    rw [Loggers.levelOf, hwayUp, Logger.levelAlong_append (List.forall_mem_map.mpr h),
      Loggers.levelOf, wayUp_setUp_root]
  have hhandlers : (∀ b ∈ passed, (loggers.get b).propagates) →
      (settings.setUp loggers).handlersOf name =
        passed.flatMap (fun b => (loggers.get b).handlers) ++ settings.handlers := by
    intro h
    have hroot : Logger.handlersAlong [settings.rootSettings, loggers.top] = settings.handlers :=
      List.append_nil _
    rw [Loggers.handlersOf, hwayUp, Logger.handlersAlong_append (List.forall_mem_map.mpr h), hroot,
      List.flatMap_map]
  refine ⟨hpassed, hwayUp, hlevel, hhandlers, ?_⟩
  rintro hunset htop line rfl
  have hnone : passed.flatMap (fun b => (loggers.get b).handlers) = [] :=
    List.flatMap_eq_nil_iff.mpr fun b hb => by rw [hunset b hb]
  rw [Loggers.receivers, hlevel fun b hb => by rw [hunset b hb],
    hhandlers fun b hb => by rw [hunset b hb], hnone, levelOf_setUp_root htop, List.nil_append,
    shownLines]
  by_cases h : settings.level.effective.number ≤ line.level.number
  · simp [h]
  · simp [h]

end LogSettings

/-- Each name gives a logger in the tree of the root unless it runs on behind the root's name
without a dot, and the name of that logger gives the same logger again. What is set on the root
counts for the loggers with one dot behind it. With more dots the way up comes to the root for an
odd number of dots only, if none of the names with fewer dots belongs to a logger. Loggers outside
of the tree are left alone. -/
theorem logger_in_tree (name : Option Name) :
    (IsInTree (loggerName name) ↔ ∀ given, name = some given → ¬ RunsOn given.text) ∧
      loggerName (some (.plain (loggerName name))) = loggerName name ∧
      ∃ dots rest, loggerName name = behindRoot dots rest ∧ rest.head? ≠ some '.' ∧
        (IsInTree (loggerName name) ↔ 0 < dots ∨ rest = []) ∧
        ∀ (settings : LogSettings) (loggers : Loggers), loggers.HasNoneWithFewer dots →
          (loggerName name = rootLogger ∨ dots % 2 = 1 →
            ∃ passed, settings.Governs loggers passed (loggerName name)) ∧
          (loggerName name ≠ rootLogger ∧ dots % 2 = 0 →
            (settings.setUp loggers).wayUp (loggerName name) =
              loggers.wayUp (loggerName name)) := by
  obtain ⟨dots, rest, hname, hrest⟩ := exists_behindRoot (root_prefix_loggerName name)
  refine ⟨isInTree_loggerName name, loggerName_again name, dots, rest, hname, hrest,
    hname ▸ isInTree_behindRoot hrest, fun settings loggers hnone => ⟨?_, ?_⟩⟩
  · rintro (hroot | hodd)
    · rw [hroot]
      exact ⟨[], .of_wayUp nofun settings.wayUp_setUp_root⟩
    · obtain ⟨passed, hpassed, hwayUp⟩ := settings.wayUp_setUp_of_odd hrest hodd hnone
      refine ⟨passed, .of_wayUp (fun b hb => ⟨(hpassed b hb).1, ?_⟩) (hname ▸ hwayUp)⟩
      obtain ⟨part, rfl⟩ := (hpassed b hb).2
      exact isInTree_of_dots (by omega) part
  · rintro ⟨hother, heven⟩
    rw [hname] at hother ⊢
    exact settings.wayUp_setUp_of_even hrest (by omega) hother hnone

/-- The logger stands two steps below the root, and the one in between has a handler of its own. -/
theorem logger_in_tree_nested :
    let settings : LogSettings := { level := .debug, toFile := false, extraHandlers := 1 }
    let loggers := Loggers.initial.put "sqlbricks.store" { handlers := ["MemoryHandler"] }
    let name := loggerName (some (.plain "store.cells"))
    IsInTree name ∧ ∃ passed, settings.Governs loggers passed name ∧
      (settings.setUp loggers).levelOf name = LogLevel.debug.number ∧
      (settings.setUp loggers).handlersOf name =
        ["MemoryHandler", "StreamHandler", "NullHandler"] := by
  intro settings loggers name
  obtain ⟨htree, -, dots, rest, hname, hrest, -, hsettings⟩ :=
    logger_in_tree (some (.plain "store.cells"))
  have hdots : dots = 1 := by
    have hchars := congrArg String.toList hname
    rw [loggerName_of_other (by decide), toList_behindRoot, String.append_assoc,
      String.toList_append] at hchars
    have hbehind : '.' :: "store.cells".toList = List.replicate dots '.' ++ rest :=
      List.append_cancel_left hchars
    match dots, hbehind with
    | 0, hbehind => exact absurd (congrArg List.head? hbehind).symm hrest
    | 1, _ => rfl
    | more + 2, hbehind => exact absurd (List.cons.inj (List.cons.inj hbehind).2).1 (by decide)
  subst hdots
  have hfewer : loggers.HasNoneWithFewer 1 := by
    intro fewer hpos hlt
    omega
  obtain ⟨passed, hgoverns⟩ := (hsettings settings loggers hfewer).1 (.inr rfl)
  have hunset : ∀ b, (loggers.get b).level = 0 := by
    intro b
    by_cases hb : b = "sqlbricks.store"
    · rw [hb, Loggers.get_put_self]
    · rw [Loggers.get_put_of_ne hb]
      rfl
  refine ⟨htree.mpr ?_, passed, hgoverns, hgoverns.level fun b _ => hunset b, by decide +kernel⟩
  rintro given ⟨rfl⟩ ⟨c, behind, -, h⟩
  exact absurd (List.cons.inj (List.cons.inj h).2).1 (by decide)

/-- A dot in front of the name makes two of them, and the root is passed over. -/
example : IsInTree (loggerName (some (.plain ".cells"))) ∧
    (LogSettings.setUp { level := .debug, toFile := false, extraHandlers := 1 }
      .initial).handlersOf (loggerName (some (.plain ".cells"))) = [] := by
  decide +kernel

/-- A name that only begins like the root's is kept as it is, and no handler gets the lines. -/
theorem running_on_outside :
    loggerName (some (.plain "sqlbricksfoo")) = "sqlbricksfoo" ∧ ¬ IsInTree "sqlbricksfoo" ∧
      ∀ settings : LogSettings, (settings.setUp .initial).handlersOf "sqlbricksfoo" = [] :=
  ⟨rfl, by decide, fun settings => rfl⟩

end SqlComposer
