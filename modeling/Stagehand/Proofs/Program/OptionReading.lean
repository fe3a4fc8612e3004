import Stagehand.Program.Options
import Stagehand.Proofs.Text.Stripping
/-!
# Reading a command line

A command reads for each of its settings the value that the arguments give it, and no other
(`value?_eq_some_iff`), however the arguments are mixed with switches and whichever of the two forms
they have. `Takes` lists what a single argument can do; what has been read and what is still owed go
through it unchanged (`Takes.has_iff`), and so do the checks of the values (`Takes.sound`).
-/

namespace Stagehand.Program

/-- The arguments give the setting the value: after an equals sign, or as the next argument. -/
inductive Gives (long value : String) : List String → Prop
  | attached (rest : List String) : Gives long value (("--" ++ long ++ "=" ++ value) :: rest)
  | apart (rest : List String) : Gives long value (("--" ++ long) :: value :: rest)
  | later {argument : String} {rest : List String} :
      Gives long value rest → Gives long value (argument :: rest)

/-- The argument names the setting, with or without a value. -/
def Setting.NamedBy (s : Setting) (argument : String) : Prop :=
  argument = "--" ++ s.long ∨ ∃ value, argument = "--" ++ s.long ++ "=" ++ value

/-- The names of the settings are fit for a command line and tell the settings apart. -/
structure Grammar.Distinct (g : Grammar) : Prop where
  filled : ∀ s ∈ g.settings, s.long ≠ ""
  noEquals : ∀ s ∈ g.settings, '=' ∉ s.long.toList
  found : ∀ s ∈ g.settings, g.settings.find? (·.long == s.long) = some s

namespace Given

/-- The values read so far, with the one that is not settled. -/
def held (given : Given) : List (String × String) :=
  match given.pending with
  | some (s, some value) => (s.long, value) :: given.values
  | _ => given.values

/-- The setting that lacks its value. -/
def owed (given : Given) : Option Setting :=
  match given.pending with
  | some (s, none) => some s
  | _ => none

/-- The value has been read for the setting, or the arguments that remain give it. -/
def Has (given : Given) (rest : List String) (long value : String) : Prop :=
  (long, value) ∈ given.held ∨
    (∃ s, given.owed = some s ∧ s.long = long ∧ rest.head? = some value) ∨ Gives long value rest

/-- No setting has two values, and every value has passed the check of its setting. -/
structure Sound (g : Grammar) (given : Given) : Prop where
  distinct : (given.values.map Prod.fst).Nodup
  checked : ∀ long value, (long, value) ∈ given.values →
    ∃ s ∈ g.settings, s.long = long ∧ s.check value = .ok ()
  pending : ∀ s value, given.pending = some (s, value) → s ∈ g.settings

end Given

/-- What an argument does to what has been read. -/
inductive Takes (g : Grammar) (given : Given) : String → Given → Prop
  /-- It names a setting, whose value is to follow. -/
  | named {s : Setting} {settled : Given} : s ∈ g.settings → given.settle = .ok settled →
      Takes g given ("--" ++ s.long) { settled with pending := some (s, none) }
  /-- It is a setting with its value. -/
  | attached {s : Setting} {value : String} {settled next : Given} : s ∈ g.settings →
      given.settle = .ok settled → settled.addValue s value = .ok next →
      Takes g given ("--" ++ s.long ++ "=" ++ value) next
  /-- It is the value that was to follow, and no option. -/
  | value {s : Setting} {value : String} : given.pending = some (s, none) →
      (∀ text, value ≠ "--" ++ text) →
      Takes g given value { given with pending := some (s, some value) }
  /-- It stands for switches. -/
  | switches {argument : String} {settled next : Given} :
      (∀ s ∈ g.settings, ¬ s.NamedBy argument) → given.settle = .ok settled →
      next.values = settled.values → next.pending = none → Takes g given argument next

/-! ## Values -/

section Values

variable {g : Grammar} {given next settled : Given} {s : Setting} {value : String}

theorem Given.owed_of_none (h : given.pending = none) : given.owed = none := by
  unfold Given.owed
  rw [h]

theorem Given.held_of_none (h : given.pending = none) : given.held = given.values := by
  unfold Given.held
  rw [h]

theorem Given.value?_eq_none_iff {long : String} :
    given.value? long = none ↔ long ∉ given.values.map Prod.fst := by
  simp only [Given.value?, Option.map_eq_none_iff, List.find?_eq_none, beq_iff_eq, List.mem_map,
    not_exists, not_and]

/-- Where no setting has two values, the value of a setting is the one that was read. -/
theorem Given.Sound.value?_eq_some_iff (h : given.Sound g) {long : String} :
    given.value? long = some value ↔ (long, value) ∈ given.values := by
  unfold Given.value?
  have hdistinct := h.distinct
  generalize given.values = values at hdistinct
  induction values with
  | nil => simp
  | cons first rest ih =>
    rw [List.map_cons, List.nodup_cons] at hdistinct
    by_cases hfirst : first.1 = long
    · have hrest : (long, value) ∉ rest := fun hmem =>
        hdistinct.1 (hfirst ▸ List.mem_map_of_mem hmem)
      obtain ⟨name, found⟩ := first
      obtain rfl : name = long := hfirst
      simp [hrest, eq_comm]
    · have hne : (long, value) ≠ first := fun hsame => hfirst (by rw [← hsame])
      rw [List.find?_cons_of_neg (by simpa using hfirst), List.mem_cons, or_iff_right hne]
      exact ih hdistinct.2

/-- A value is added once it is checked, to a setting that had none. -/
theorem Given.addValue_eq_ok (h : given.addValue s value = .ok next) :
    s.check value = .ok () ∧ given.value? s.long = none ∧
      next.values = (s.long, value) :: given.values ∧ next.pending = given.pending := by
  unfold Given.addValue at h
  split at h
  · cases h
  · next hnew =>
    split at h
    · next hcheck =>
      obtain rfl := Except.ok.inj h
      exact ⟨hcheck, by simpa using hnew, rfl, rfl⟩
    · cases h

/-- Settling leaves nothing owed, and keeps what is held. -/
theorem Given.settle_eq_ok (h : given.settle = .ok settled) :
    given.owed = none ∧ settled.pending = none ∧ settled.values = given.held := by
  unfold Given.settle at h
  unfold Given.owed Given.held
  split at h
  · next hpending =>
    obtain rfl := Except.ok.inj h
    rw [hpending]
    exact ⟨rfl, rfl, rfl⟩
  · cases h
  · next s value hpending =>
    obtain ⟨-, -, hvalues, hnone⟩ := Given.addValue_eq_ok h
    rw [hpending]
    exact ⟨rfl, hnone, hvalues⟩

theorem Given.Sound.addValue (h : given.Sound g) (hs : s ∈ g.settings)
    (hnext : given.addValue s value = .ok next) : next.Sound g := by
  obtain ⟨hcheck, hnew, hvalues, hpending⟩ := Given.addValue_eq_ok hnext
  constructor
  case distinct =>
    rw [hvalues, List.map_cons, List.nodup_cons]
    exact ⟨Given.value?_eq_none_iff.mp hnew, h.distinct⟩
  case checked =>
    intro long other hmem
    rw [hvalues] at hmem
    rcases List.mem_cons.mp hmem with hsame | hmem
    · obtain ⟨rfl, rfl⟩ := Prod.mk.inj hsame
      exact ⟨s, hs, rfl, hcheck⟩
    · exact h.checked long other hmem
  case pending =>
    rw [hpending]
    exact h.pending

theorem Given.Sound.settle (h : given.Sound g) (hsettled : given.settle = .ok settled) :
    settled.Sound g := by
  unfold Given.settle at hsettled
  split at hsettled
  · obtain rfl := Except.ok.inj hsettled
    exact h
  · cases hsettled
  · next s value hpending =>
    have hnone : ({ given with pending := none } : Given).Sound g :=
      ⟨h.distinct, h.checked, fun _ _ hsome => by cases hsome⟩
    exact hnone.addValue (h.pending s _ hpending) hsettled

end Values

/-! ## Single arguments -/

theorem eq_ok_of_mapError {α : Type} {read : Except UsageError α} {a : α}
    (h : read.mapError Stop.refused = .ok a) : read = .ok a := by
  cases read with
  | error e => cases h
  | ok b => exact congrArg Except.ok (Except.ok.inj h)

theorem dashes_toList : "--".toList = ['-', '-'] := rfl

theorem Setting.NamedBy.dashes {s : Setting} {argument : String} (h : s.NamedBy argument) :
    ∃ text, argument = "--" ++ text := by
  rcases h with rfl | ⟨value, rfl⟩
  · exact ⟨_, rfl⟩
  · rw [String.append_assoc, String.append_assoc]
    exact ⟨_, rfl⟩

section Arguments

variable {g : Grammar} {given next : Given}

/-- A text is cut at its first equals sign. -/
theorem splitValue_cases (cs : List Char) :
    (∃ name, splitValue cs = (name, none) ∧ cs = name.toList ∧ '=' ∉ name.toList) ∨
    ∃ name value, splitValue cs = (name, some value) ∧
      cs = name.toList ++ '=' :: value.toList ∧ '=' ∉ name.toList := by
  unfold splitValue
  split
  · next hnone =>
    have hfree : '=' ∉ cs := by
      intro hmem
      simpa using List.dropWhile_eq_nil_iff.mp hnone '=' hmem
    exact .inl ⟨_, rfl, by simp, by simpa using hfree⟩
  · next c value hsome =>
    have hc : c = '=' := by simpa [hsome] using List.head?_dropWhile_not (· != '=') cs
    refine .inr ⟨_, _, rfl, ?_, ?_⟩
    · have hcut := List.takeWhile_append_dropWhile (p := (· != '=')) (l := cs)
      rw [hsome, hc] at hcut
      simpa using hcut.symm
    · intro hmem
      rw [String.toList_ofList] at hmem
      simpa using List.mem_takeWhile_imp hmem

/-- An argument that begins with two dashes, in front of a name or of a name and a value. -/
theorem eq_of_splitValue {argument : String} {text : List Char}
    (h : argument.toList = '-' :: '-' :: text) :
    (∃ name, splitValue text = (name, none) ∧ argument = "--" ++ name ∧ '=' ∉ name.toList) ∨
    ∃ name value, splitValue text = (name, some value) ∧
      argument = "--" ++ name ++ "=" ++ value ∧ '=' ∉ name.toList := by
  rcases splitValue_cases text with ⟨name, hsplit, rfl, hfree⟩ | ⟨name, value, hsplit, rfl, hfree⟩
  · refine .inl ⟨name, hsplit, ?_, hfree⟩
    rw [← String.toList_inj, h]
    simp
  · refine .inr ⟨name, value, hsplit, ?_, hfree⟩
    rw [← String.toList_inj, h]
    simp

/-- Two texts with a first equals sign each are the same before it and after it. -/
theorem option_inj {name name' value value' : String} (hname : '=' ∉ name.toList)
    (hname' : '=' ∉ name'.toList)
    (h : "--" ++ name ++ "=" ++ value = "--" ++ name' ++ "=" ++ value') :
    name = name' ∧ value = value' := by
  have hcs : name.toList ++ '=' :: value.toList = name'.toList ++ '=' :: value'.toList := by
    simpa [← String.toList_inj] using h
  have hfree {text : String} (hfree : '=' ∉ text.toList) :
      ∀ c ∈ text.toList, (c != '=') = true := by
    rintro c hc
    rw [bne_iff_ne]
    rintro rfl
    exact hfree hc
  obtain ⟨hfront, -, hrest⟩ := Text.cut_unique hcs (hfree hname) rfl (hfree hname') rfl
  exact ⟨String.toList_inj.mp hfront, String.toList_inj.mp hrest⟩

/-- Switches settle what is pending and give no value. -/
theorem Given.addSwitch_eq_ok {switch : Switch} (h : given.addSwitch switch = .ok next) :
    ∃ settled, given.settle = .ok settled ∧ next.values = settled.values ∧ next.pending = none := by
  unfold Given.addSwitch at h
  split at h
  · cases h
  · next settled hsettled =>
    obtain ⟨-, hnone, -⟩ := Given.settle_eq_ok hsettled
    refine ⟨settled, hsettled, ?_⟩
    split at h
    · cases h
    · cases h
    · split_ifs at h
      obtain rfl := Except.ok.inj h
      exact ⟨rfl, hnone⟩

theorem addShort_eq_ok {c : Char} {letters : List Char}
    (h : g.addShort given (c :: letters) = .ok next) :
    ∃ settled, given.settle = .ok settled ∧ next.values = settled.values ∧ next.pending = none := by
  induction letters generalizing given c with
  | nil =>
    unfold Grammar.addShort at h
    split at h
    · cases h
    · split at h
      · next after hafter =>
        obtain rfl := Except.ok.inj h
        exact Given.addSwitch_eq_ok hafter
      · cases h
  | cons d letters ih =>
    unfold Grammar.addShort at h
    split at h
    · cases h
    · split at h
      · next after hafter =>
        obtain ⟨settled, hsettled, hvalues, hnone⟩ := Given.addSwitch_eq_ok hafter
        obtain ⟨again, hagain, hnext, hlast⟩ := ih h
        -- Nothing is pending after the first letter, so the others settle nothing.
        obtain ⟨-, -, hheld⟩ := Given.settle_eq_ok hagain
        rw [hheld, Given.held_of_none hnone, hvalues] at hnext
        exact ⟨settled, hsettled, hnext, hlast⟩
      · cases h

theorem addLong_takes {argument : String} {text : List Char}
    (hargument : argument.toList = '-' :: '-' :: text) (h : g.addLong given text = .ok next) :
    Takes g given argument next := by
  have hname {name : String} {s : Setting} (hfound : g.settings.find? (·.long == name) = some s) :
      s ∈ g.settings ∧ s.long = name :=
    ⟨List.mem_of_find?_eq_some hfound, by simpa using List.find?_some hfound⟩
  unfold Grammar.addLong at h
  rcases eq_of_splitValue hargument with ⟨name, hsplit, rfl, hfree⟩ |
    ⟨name, value, hsplit, rfl, hfree⟩
  · simp only [hsplit] at h
    split at h
    · next s hfound =>
      obtain ⟨hs, rfl⟩ := hname hfound
      split at h
      · cases h
      · next settled hsettled =>
        obtain rfl := Except.ok.inj h
        exact .named hs hsettled
    · next hnone =>
      split at h
      · cases h
      · cases h
      · next switch hswitch hbare =>
        obtain ⟨settled, hsettled, hvalues, hpending⟩ := Given.addSwitch_eq_ok h
        refine .switches ?_ hsettled hvalues hpending
        rintro s hs (hsame | ⟨value, hsame⟩)
        · have hlong : name = s.long := by simpa [← String.toList_inj] using hsame
          simpa [hlong] using List.find?_eq_none.mp hnone s hs
        · refine hfree ?_
          have hcs : name.toList = s.long.toList ++ '=' :: value.toList := by
            simpa [← String.toList_inj] using hsame
          simp [hcs]
  · simp only [hsplit] at h
    split at h
    · next s hfound =>
      obtain ⟨hs, rfl⟩ := hname hfound
      split at h
      · cases h
      · next settled hsettled =>
        exact .attached hs hsettled (eq_ok_of_mapError h)
    · split at h
      · cases h
      · cases h
      · next hbare => cases hbare

/-- The arguments are read one after another, up to a pair of dashes at the end. -/
theorem scan_cons {argument : String} {rest : List String} {final : Given}
    (h : g.scan given (argument :: rest) = .ok final) :
    (argument = "--" ∧ rest = [] ∧ given.settle = .ok final) ∨
      ∃ next, Takes g given argument next ∧ g.scan next rest = .ok final := by
  unfold Grammar.scan at h
  split at h
  · next hdashes =>
    have hargument : argument = "--" := String.toList_inj.mp hdashes
    split at h
    · exact .inl ⟨hargument, rfl, eq_ok_of_mapError h⟩
    · cases h
  · next text hne htext =>
    split at h
    · next following hlong => exact .inr ⟨following, addLong_takes htext hlong, h⟩
    · cases h
  · next c letters hdashes hlong htext =>
    split at h
    · next following hshort =>
      obtain ⟨settled, hsettled, hvalues, hnone⟩ := addShort_eq_ok hshort
      refine .inr ⟨following, .switches ?_ hsettled hvalues hnone, h⟩
      -- Two dashes would have been taken for a long option.
      intro s _ hnamed
      obtain ⟨text, rfl⟩ := hnamed.dashes
      rw [String.toList_append, dashes_toList] at htext
      exact hlong (List.cons.inj (List.cons.inj htext).2).1.symm
    · cases h
  · next hdashes hlong hshort =>
    split at h
    · next following hplain =>
      unfold Grammar.addPlain at hplain
      split at hplain
      · next s hpending =>
        obtain rfl := Except.ok.inj hplain
        refine .inr ⟨_, .value hpending ?_, h⟩
        rintro text rfl
        rw [String.toList_append, dashes_toList] at hlong
        exact hlong text.toList rfl
      · cases hplain
    · cases h

end Arguments

/-! ## What the arguments give -/

section Given

variable {g : Grammar} {given next final : Given} {s : Setting} {value argument : String}
  {rest arguments : List String}

theorem gives_cons_iff : Gives s.long value (argument :: rest) ↔
    argument = "--" ++ s.long ++ "=" ++ value ∨
      (argument = "--" ++ s.long ∧ rest.head? = some value) ∨ Gives s.long value rest := by
  constructor
  · intro h
    cases h with
    | attached => exact .inl rfl
    | apart => exact .inr (.inl ⟨rfl, rfl⟩)
    | later h => exact .inr (.inr h)
  · rintro (rfl | ⟨rfl, hhead⟩ | h)
    · exact .attached rest
    · obtain ⟨later, rfl⟩ := List.head?_eq_some_iff.mp hhead
      exact .apart later
    · exact .later h

/-- An argument that does not name the setting does not give it a value. -/
theorem gives_of_not_namedBy (h : ¬ s.NamedBy argument) :
    Gives s.long value (argument :: rest) ↔ Gives s.long value rest := by
  rw [gives_cons_iff]
  constructor
  · rintro (hsame | ⟨hsame, -⟩ | hlater)
    · exact absurd (.inr ⟨value, hsame⟩) h
    · exact absurd (.inl hsame) h
    · exact hlater
  · exact fun hlater => .inr (.inr hlater)

/-- What has been read and what is to be read stay the same together. -/
theorem Takes.has_iff (h : Takes g given argument next) (hg : g.Distinct) (hs : s ∈ g.settings) :
    given.Has (argument :: rest) s.long value ↔ next.Has rest s.long value := by
  cases h with
  | @named s' settled hs' hsettled =>
    obtain ⟨howed, -, hvalues⟩ := Given.settle_eq_ok hsettled
    have hne : "--" ++ s'.long ≠ "--" ++ s.long ++ "=" ++ value := by
      intro hsame
      refine hg.noEquals s' hs' ?_
      have hcs : s'.long.toList = s.long.toList ++ '=' :: value.toList := by
        simpa [← String.toList_inj] using hsame
      simp [hcs]
    have hlong : "--" ++ s'.long = "--" ++ s.long ↔ s'.long = s.long := by
      simp [← String.toList_inj]
    unfold Given.Has
    rw [gives_cons_iff, howed, hlong, hvalues.symm]
    simp [Given.held, Given.owed, hne]
  | @attached s' given' settled _ hs' hsettled hadded =>
    obtain ⟨howed, hnone, hvalues⟩ := Given.settle_eq_ok hsettled
    obtain ⟨-, -, hnext, hpending⟩ := Given.addValue_eq_ok hadded
    rw [hnone] at hpending
    have hne : "--" ++ s'.long ++ "=" ++ given' ≠ "--" ++ s.long := by
      intro hsame
      refine hg.noEquals s hs ?_
      have hcs : s'.long.toList ++ '=' :: given'.toList = s.long.toList := by
        simpa [← String.toList_inj] using hsame
      simp [← hcs]
    have hsame : "--" ++ s'.long ++ "=" ++ given' = "--" ++ s.long ++ "=" ++ value ↔
        (s.long, value) = (s'.long, given') := by
      constructor
      · intro hsame
        obtain ⟨hlong, hvalue⟩ := option_inj (hg.noEquals s' hs') (hg.noEquals s hs) hsame
        rw [hlong, hvalue]
      · intro hpair
        obtain ⟨hlong, rfl⟩ := Prod.mk.inj hpair
        rw [hlong]
    unfold Given.Has
    rw [gives_cons_iff, hsame, howed, Given.owed_of_none hpending, Given.held_of_none hpending,
      hnext, List.mem_cons, hvalues]
    simp [hne, or_left_comm, or_assoc]
  | @value s' _ hpending hplain =>
    have hsilent : ¬ s.NamedBy argument := by
      intro hnamed
      obtain ⟨text, hdashes⟩ := hnamed.dashes
      exact hplain text hdashes
    unfold Given.Has
    rw [gives_of_not_namedBy hsilent]
    simp [Given.held, Given.owed, hpending, eq_comm, or_left_comm, or_assoc, and_comm]
  | switches hsilent hsettled hvalues hnone =>
    obtain ⟨howed, -, hheld⟩ := Given.settle_eq_ok hsettled
    unfold Given.Has
    rw [gives_of_not_namedBy (hsilent s hs), howed, Given.owed_of_none hnone,
      Given.held_of_none hnone, hvalues, hheld]
    simp

theorem Takes.sound (h : Takes g given argument next) (hgiven : given.Sound g) : next.Sound g := by
  cases h with
  | named hs hsettled =>
    have hsound := hgiven.settle hsettled
    refine ⟨hsound.distinct, hsound.checked, ?_⟩
    rintro other value ⟨⟩
    exact hs
  | attached hs hsettled hadded => exact (hgiven.settle hsettled).addValue hs hadded
  | value hpending =>
    refine ⟨hgiven.distinct, hgiven.checked, ?_⟩
    rintro other value ⟨⟩
    exact hgiven.pending _ _ hpending
  | switches _ hsettled hvalues hnone =>
    have hsound := hgiven.settle hsettled
    refine ⟨hvalues ▸ hsound.distinct, hvalues ▸ hsound.checked, ?_⟩
    rw [hnone]
    exact nofun

/-- Two dashes name no setting. -/
theorem not_namedBy_dashes (hg : g.Distinct) (hs : s ∈ g.settings) : ¬ s.NamedBy "--" := by
  rintro (hsame | ⟨value, hsame⟩)
  · have hempty : s.long.toList = [] := by simpa using congrArg String.toList hsame
    exact hg.filled s hs (String.toList_inj.mp hempty)
  · simpa using congrArg String.toList hsame

/-- At the end all is settled that has been read or was still to be read. -/
theorem scan_eq_ok (h : g.scan given arguments = .ok final) (hg : g.Distinct)
    (hgiven : given.Sound g) : final.Sound g ∧ ∀ s ∈ g.settings, ∀ value,
      ((s.long, value) ∈ final.values ↔ given.Has arguments s.long value) := by
  have hend {given : Given} (hgiven : given.Sound g) (hsettled : given.settle = .ok final) :
      final.Sound g ∧ ∀ s ∈ g.settings, ∀ value, ((s.long, value) ∈ final.values ↔
        given.Has [] s.long value) := by
    obtain ⟨howed, -, hvalues⟩ := Given.settle_eq_ok hsettled
    refine ⟨hgiven.settle hsettled, fun s _ value => ?_⟩
    have hnone : ¬ Gives s.long value [] := nofun
    simp [Given.Has, hvalues, howed, hnone]
  induction arguments generalizing given with
  | nil => exact hend hgiven (eq_ok_of_mapError h)
  | cons argument rest ih =>
    rcases scan_cons h with ⟨rfl, rfl, hsettled⟩ | ⟨next, htakes, hscan⟩
    · obtain ⟨hsound, hread⟩ := hend hgiven hsettled
      obtain ⟨howed, -, -⟩ := Given.settle_eq_ok hsettled
      refine ⟨hsound, fun s hs value => ?_⟩
      rw [hread s hs value]
      unfold Given.Has
      rw [gives_of_not_namedBy (not_namedBy_dashes hg hs), howed]
      simp
    · obtain ⟨hsound, hread⟩ := ih hscan (htakes.sound hgiven)
      refine ⟨hsound, fun s hs value => ?_⟩
      rw [hread s hs value, htakes.has_iff hg hs]

theorem sound_nothing (g : Grammar) : Given.Sound g {} where
  distinct := List.nodup_nil
  checked _ _ hmem := nomatch hmem
  pending _ _ hsome := nomatch hsome

/-- A command reads for a setting the value that the arguments give it. -/
theorem value?_eq_some_iff (h : g.read arguments = .ok final) (hg : g.Distinct)
    (hs : s ∈ g.settings) : final.value? s.long = some value ↔ Gives s.long value arguments := by
  obtain ⟨hsound, hread⟩ := scan_eq_ok h hg (sound_nothing g)
  rw [hsound.value?_eq_some_iff, hread s hs value]
  simp [Given.Has, Given.held, Given.owed]

/-- And it reads nothing for a setting that they give no value. -/
theorem value?_eq_none_iff (h : g.read arguments = .ok final) (hg : g.Distinct)
    (hs : s ∈ g.settings) :
    final.value? s.long = none ↔ ∀ value, ¬ Gives s.long value arguments := by
  rw [Option.eq_none_iff_forall_ne_some]
  exact forall_congr' fun value => not_congr (value?_eq_some_iff h hg hs)

/-- What has been read for a setting has passed its check. -/
theorem check_of_value? (h : g.read arguments = .ok final) (hg : g.Distinct)
    (hs : s ∈ g.settings) (hvalue : final.value? s.long = some value) :
    s.check value = .ok () := by
  obtain ⟨hsound, -⟩ := scan_eq_ok h hg (sound_nothing g)
  obtain ⟨other, hother, hlong, hcheck⟩ :=
    hsound.checked s.long value (hsound.value?_eq_some_iff.mp hvalue)
  have hfound := hg.found other hother
  rw [hlong, hg.found s hs] at hfound
  rwa [Option.some.inj hfound]

end Given

/-! ## Command lines that are accepted -/

section Accepted

variable {g : Grammar} {given : Given} {s : Setting} {value : String}

theorem splitValue_attached (hfree : '=' ∉ s.long.toList) :
    splitValue (s.long.toList ++ '=' :: value.toList) = (s.long, some value) := by
  have hargument : ("--" ++ s.long ++ "=" ++ value).toList =
      '-' :: '-' :: (s.long.toList ++ '=' :: value.toList) := by simp
  rcases eq_of_splitValue hargument with
    ⟨name, -, hsame, hname⟩ | ⟨name, found, hsplit, hsame, hname⟩
  · refine absurd ?_ hname
    have hcs : s.long.toList ++ '=' :: value.toList = name.toList := by
      simpa [← String.toList_inj] using hsame
    simp [← hcs]
  · obtain ⟨rfl, rfl⟩ := option_inj hfree hname hsame
    exact hsplit

/-- A setting with its value is read where the setting has none and the value passes its check. -/
theorem scan_attached (hg : g.Distinct) (hs : s ∈ g.settings) (hcheck : s.check value = .ok ())
    (hnone : given.pending = none) (hnew : given.value? s.long = none) (rest : List String) :
    g.scan given (("--" ++ s.long ++ "=" ++ value) :: rest) =
      g.scan { given with values := (s.long, value) :: given.values } rest := by
  have hsettle : given.settle = .ok given := by
    unfold Given.settle
    rw [hnone]
  have hadd : given.addValue s value =
      .ok { given with values := (s.long, value) :: given.values } := by
    unfold Given.addValue
    rw [hnew, hcheck]
    rfl
  have hlong : g.addLong given (s.long.toList ++ '=' :: value.toList) =
      .ok { given with values := (s.long, value) :: given.values } := by
    unfold Grammar.addLong
    rw [splitValue_attached (hg.noEquals s hs)]
    simp only [hg.found s hs, hsettle, hadd]
    rfl
  have hargument : ("--" ++ s.long ++ "=" ++ value).toList =
      '-' :: '-' :: (s.long.toList ++ '=' :: value.toList) := by simp
  conv_lhs => unfold Grammar.scan
  split
  · next hdashes => simp [hargument] at hdashes
  · next text _ htext =>
    obtain rfl : s.long.toList ++ '=' :: value.toList = text := by simpa [hargument] using htext
    rw [hlong]
  · next _ hdash hshort =>
    rw [hargument] at hshort
    exact (hdash (List.cons.inj (List.cons.inj hshort).2).1.symm).elim
  · next hother _ => exact (hother _ hargument).elim

/-- Settings with values that pass their checks, each given once, are a command line. -/
theorem exists_read (hg : g.Distinct) (pairs : List (Setting × String))
    (hpairs : ∀ p ∈ pairs, p.1 ∈ g.settings ∧ p.1.check p.2 = .ok ())
    (hdistinct : (pairs.map fun p => p.1.long).Nodup) :
    ∃ given, g.read (pairs.map fun p => "--" ++ p.1.long ++ "=" ++ p.2) = .ok given := by
  have hscan : ∀ given : Given, given.pending = none →
      (∀ p ∈ pairs, given.value? p.1.long = none) →
      ∃ final, g.scan given (pairs.map fun p => "--" ++ p.1.long ++ "=" ++ p.2) = .ok final := by
    induction pairs with
    | nil =>
      intro given hnone _
      refine ⟨given, ?_⟩
      rw [List.map_nil, Grammar.scan, Given.settle, hnone]
      rfl
    | cons p pairs ih =>
      intro given hnone hnew
      obtain ⟨⟨hs, hcheck⟩, hrest⟩ := List.forall_mem_cons.mp hpairs
      rw [List.map_cons, List.nodup_cons] at hdistinct
      rw [List.map_cons, scan_attached hg hs hcheck hnone (hnew p (by simp))]
      refine ih hrest hdistinct.2 _ hnone fun q hq => ?_
      rw [Given.value?_eq_none_iff, List.map_cons, List.mem_cons, not_or]
      refine ⟨?_, Given.value?_eq_none_iff.mp (hnew q (List.mem_cons_of_mem p hq))⟩
      intro hsame
      exact hdistinct.1 (List.mem_map.mpr ⟨q, hq, hsame⟩)
  exact hscan {} rfl fun _ _ => rfl

end Accepted

end Stagehand.Program
