import Mathlib.Computability.RegularExpressions
import Stagehand.Message.BreakingMark
import Stagehand.Proofs.Text.Letters
import Stagehand.Proofs.Text.Stripping
/-!
# What counts as a breaking change

The mark of a breaking change is described by a grammar (`Marked`) and by a regular expression
(`markPattern`), and the scanner finds neither more nor less than either (`isBreaking_iff`,
`isBreaking_iff_pattern`). Blanks before the mark go by Unicode, what stands within the parentheses
by ASCII alone. `isBreaking_exact` is the result for a message.
-/

namespace Stagehand.Message

open Text

/-- The word `breaking`, in any case of its letters, with white space of ASCII around it. -/
def SaysBreaking (inner : List Char) : Prop :=
  ∃ left word right, inner = left ++ word ++ right ∧
    (∀ c ∈ left, isAsciiSpace c = true) ∧ word.map Char.toLower = "breaking".toList ∧
    ∀ c ∈ right, isAsciiSpace c = true

/-- After blank characters the text begins with parentheses that say so. -/
def Marked (text : List Char) : Prop :=
  ∃ opening inner rest, text = opening ++ '(' :: inner ++ ')' :: rest ∧
    (∀ c ∈ opening, isBlank c = true) ∧ SaysBreaking inner

/-! ## The mark as a regular expression -/

/-- The white space of ASCII, listed. -/
def asciiSpaces : List Char :=
  [' ', '\t', '\n', '\x0b', '\x0c', '\r']

/-- One of the characters. -/
def oneOf (cs : List Char) : RegularExpression Char :=
  (cs.map .char).sum

/-- The word with every letter small or capital. -/
def inAnyCase (word : List Char) : RegularExpression Char :=
  (word.map fun c => .char c + .char c.toUpper).prod

/-- The mark: `\(\s*breaking\s*\)` without regard to case. -/
def markPattern : RegularExpression Char :=
  .char '(' * (oneOf asciiSpaces).star * inAnyCase "breaking".toList * (oneOf asciiSpaces).star *
    .char ')'

/-- What a message keeps to about its mark. -/
structure MarkExact (message : String) : Prop where
  grammar : isBreaking message = true ↔ Marked message.toList
  /-- The mark is what the pattern matches at the beginning, once leading blanks are off. -/
  pattern : isBreaking message = true ↔ ∃ found rest,
    message.toList.dropWhile isBlank = found ++ rest ∧ found ∈ markPattern.matches'
  /-- What follows the mark does not matter. -/
  append : isBreaking message = true → ∀ more, isBreaking (message ++ more) = true
  /-- Blanks before the mark do not matter. -/
  blanksBefore : ∀ blanks, isBlankText blanks = true →
    isBreaking (blanks ++ message) = isBreaking message
  /-- Where anything but ASCII stands within the parentheses, there is no mark. -/
  lookAlike : ∀ opening inner rest, message.toList = opening ++ '(' :: inner ++ ')' :: rest →
    (∀ c ∈ opening, isBlank c = true) → ')' ∉ inner → (∃ c ∈ inner, 0x80 ≤ c.toNat) →
    isBreaking message = false
  /-- Where anything stands before the parenthesis, there is no mark. -/
  textBefore : ∀ opening c rest, message.toList = opening ++ c :: rest →
    (∀ d ∈ opening, isBlank d = true) → isBlank c = false → c ≠ '(' → isBreaking message = false

/-! ## The scanner -/

theorem sameLetter_iff {a b : Char} : sameLetter a b = true ↔ a.toLower = b.toLower := by
  simp [sameLetter]

theorem isAsciiSpace_iff {c : Char} : isAsciiSpace c = true ↔ c ∈ asciiSpaces := by
  simp [isAsciiSpace, asciiSpaces, or_assoc]

/-- What holds of every listed character is checked one by one. -/
theorem forall_mem_of_all {P : Char → Prop} [DecidablePred P] {cs : List Char}
    (h : cs.all (fun c => decide (P c)) = true) : ∀ c ∈ cs, P c := by
  simpa using h

/-- The word is dropped where the text begins with it up to the case of its letters. -/
theorem dropWord?_eq_some_iff {word cs rest : List Char} : dropWord? word cs = some rest ↔
    ∃ found, cs = found ++ rest ∧ found.map Char.toLower = word.map Char.toLower := by
  induction word generalizing cs with
  | nil =>
    rw [dropWord?, Option.some.injEq]
    simp
  | cons w word ih =>
    cases cs with
    | nil =>
      simp only [dropWord?, reduceCtorEq, false_iff]
      rintro ⟨found, hcut, hfound⟩
      obtain rfl := (List.append_eq_nil_iff.mp hcut.symm).1
      cases hfound
    | cons c cs =>
      rw [dropWord?]
      split
      · next hsame =>
        rw [ih]
        constructor
        · rintro ⟨found, rfl, hfound⟩
          exact ⟨c :: found, rfl, by simp [hfound, sameLetter_iff.mp hsame]⟩
        · rintro ⟨_ | ⟨d, found⟩, hcut, hfound⟩
          · cases hfound
          · rw [List.cons_append, List.cons.injEq] at hcut
            exact ⟨found, hcut.2, (List.cons.inj hfound).2⟩
      · next hother =>
        simp only [reduceCtorEq, false_iff]
        rintro ⟨_ | ⟨d, found⟩, hcut, hfound⟩
        · cases hfound
        · rw [List.cons_append, List.cons.injEq] at hcut
          obtain ⟨rfl, -⟩ := hcut
          exact hother (sameLetter_iff.mpr (List.cons.inj hfound).1.symm)

/-- The word begins with a letter. -/
theorem exists_of_breaking {word : List Char} (h : word.map Char.toLower = "breaking".toList) :
    ∃ c rest, word = c :: rest ∧ isAsciiSpace c = false := by
  cases word with
  | nil => cases h
  | cons c rest =>
    refine ⟨c, rest, rfl, ?_⟩
    have hletter : c.toLower = 'b' := (List.cons.inj h).1
    refine Bool.eq_false_iff.mpr fun hspace => ?_
    have hspaces : ∀ d ∈ asciiSpaces, d.toLower ≠ 'b' :=
      forall_mem_of_all (by decide)
    exact hspaces c (isAsciiSpace_iff.mp hspace) hletter

/-- The scanner finds the mark at the beginning of a text if and only if it is there. -/
theorem isSome_dropMark?_iff {cs : List Char} : (dropMark? cs).isSome = true ↔
    ∃ inner rest, cs = '(' :: inner ++ ')' :: rest ∧ SaysBreaking inner := by
  constructor
  · intro h
    unfold dropMark? at h
    split at h
    · next cs =>
      split at h
      · next after hword =>
        split at h
        · next rest hclose =>
          obtain ⟨word, hcut, hsame⟩ := dropWord?_eq_some_iff.mp hword
          refine ⟨cs.takeWhile isAsciiSpace ++ word ++ after.takeWhile isAsciiSpace, rest, ?_,
            _, word, _, rfl, fun c => List.mem_takeWhile_imp, ?_,
            fun c => List.mem_takeWhile_imp⟩
          · conv_lhs => rw [← List.takeWhile_append_dropWhile (p := isAsciiSpace) (l := cs),
              hcut, ← List.takeWhile_append_dropWhile (p := isAsciiSpace) (l := after), hclose]
            simp
          · rw [hsame]
            rfl
        · cases h
      · cases h
    · cases h
  · rintro ⟨inner, rest, rfl, left, word, right, rfl, hleft, hword, hright⟩
    obtain ⟨c, letters, rfl, hc⟩ := exists_of_breaking hword
    have hdropped : (left ++ (c :: letters) ++ right ++ ')' :: rest).dropWhile isAsciiSpace =
        c :: letters ++ (right ++ ')' :: rest) := by
      simpa using dropWhile_cut hleft hc (letters ++ right ++ ')' :: rest)
    have hfound : dropWord? "breaking".toList (c :: letters ++ (right ++ ')' :: rest)) =
        some (right ++ ')' :: rest) :=
      dropWord?_eq_some_iff.mpr ⟨c :: letters, rfl, hword.trans (by decide)⟩
    rw [List.cons_append]
    unfold dropMark?
    simp only [hdropped, hfound, dropWhile_cut hright (by decide : isAsciiSpace ')' = false)]
    rfl

theorem isBlank_open : isBlank '(' = false := by decide

/-- The scanner finds the mark if and only if the message has the form of a marked one. -/
theorem isBreaking_iff {message : String} :
    isBreaking message = true ↔ Marked message.toList := by
  unfold isBreaking
  rw [isSome_dropMark?_iff]
  constructor
  · rintro ⟨inner, rest, hdrop, hinner⟩
    refine ⟨message.toList.takeWhile isBlank, inner, rest, ?_, fun c => List.mem_takeWhile_imp,
      hinner⟩
    conv_lhs => rw [← List.takeWhile_append_dropWhile (p := isBlank) (l := message.toList), hdrop]
    simp
  · rintro ⟨opening, inner, rest, hcut, hopening, hinner⟩
    refine ⟨inner, rest, ?_, hinner⟩
    rw [hcut, List.append_assoc]
    exact dropWhile_cut hopening isBlank_open _

/-! ## The pattern -/

theorem mem_char {c : Char} {found : List Char} :
    found ∈ (RegularExpression.char c).matches' ↔ found = [c] :=
  Iff.rfl

theorem mem_oneOf {cs found : List Char} :
    found ∈ (oneOf cs).matches' ↔ ∃ c ∈ cs, found = [c] := by
  induction cs with
  | nil => simp [oneOf, Language.notMem_zero]
  | cons c cs ih =>
    unfold oneOf at ih ⊢
    rw [List.map_cons, List.sum_cons, RegularExpression.matches'_add, Language.mem_add, ih,
      mem_char, List.exists_mem_cons_iff]

/-- Repeated, the pattern of some characters matches the texts of these characters. -/
theorem mem_star_oneOf {cs found : List Char} :
    found ∈ (oneOf cs).star.matches' ↔ ∀ c ∈ found, c ∈ cs := by
  rw [RegularExpression.matches'_star, Language.mem_kstar]
  constructor
  · rintro ⟨singles, rfl, hsingles⟩ c hc
    obtain ⟨single, hmem, hin⟩ := List.mem_flatten.mp hc
    obtain ⟨d, hd, rfl⟩ := mem_oneOf.mp (hsingles single hmem)
    rw [List.mem_singleton.mp hin]
    exact hd
  · intro h
    refine ⟨found.map fun c => [c], (List.flatMap_singleton' found).symm, ?_⟩
    intro single hmem
    obtain ⟨c, hc, rfl⟩ := List.mem_map.mp hmem
    exact mem_oneOf.mpr ⟨c, h c hc, rfl⟩

/-- The pattern of a word of small letters matches the word in any case. -/
theorem mem_inAnyCase {word found : List Char} (hword : ∀ c ∈ word, LetterPair c c.toUpper) :
    found ∈ (inAnyCase word).matches' ↔ found.map Char.toLower = word := by
  induction word generalizing found with
  | nil =>
    rw [List.map_eq_nil_iff]
    exact Iff.rfl
  | cons c word ih =>
    obtain ⟨hc, hrest⟩ := List.forall_mem_cons.mp hword
    have hcons : inAnyCase (c :: word) = (.char c + .char c.toUpper) * inAnyCase word := rfl
    rw [hcons, RegularExpression.matches'_mul, Language.mem_mul]
    simp only [RegularExpression.matches'_add, Language.mem_add, mem_char, ih hrest]
    constructor
    · rintro ⟨letter, rfl | rfl, later, rfl, rfl⟩
      · exact congrArg (· :: _) (hc.toLower_eq_iff.mpr (.inl rfl))
      · exact congrArg (· :: _) (hc.toLower_eq_iff.mpr (.inr rfl))
    · cases found with
      | nil => exact nofun
      | cons d found =>
        rw [List.map_cons, List.cons.injEq]
        rintro ⟨hd, rfl⟩
        refine ⟨[d], ?_, found, rfl, rfl⟩
        simpa using hc.toLower_eq_iff.mp hd

theorem mem_markPattern {found : List Char} : found ∈ markPattern.matches' ↔
    ∃ inner, found = '(' :: inner ++ [')'] ∧ SaysBreaking inner := by
  have hword : ∀ c ∈ "breaking".toList, LetterPair c c.toUpper :=
    forall_mem_of_all (by decide)
  have hspaces (cs : List Char) :
      cs ∈ (oneOf asciiSpaces).star.matches' ↔ ∀ c ∈ cs, isAsciiSpace c = true := by
    simp only [mem_star_oneOf, isAsciiSpace_iff]
  unfold markPattern SaysBreaking
  simp only [RegularExpression.matches'_mul, Language.mem_mul, mem_char, hspaces,
    mem_inAnyCase hword]
  constructor
  · rintro ⟨_, ⟨_, ⟨_, ⟨_, rfl, left, hleft, rfl⟩, word, hbreaking, rfl⟩, right, hright, rfl⟩,
      _, rfl, rfl⟩
    exact ⟨left ++ word ++ right, by simp, left, word, right, rfl, hleft, hbreaking, hright⟩
  · rintro ⟨_, rfl, left, word, right, rfl, hleft, hbreaking, hright⟩
    exact ⟨_, ⟨_, ⟨_, ⟨_, rfl, left, hleft, rfl⟩, word, hbreaking, rfl⟩, right, hright, rfl⟩,
      _, rfl, by simp⟩

/-- The scanner finds the mark if and only if the pattern matches. -/
theorem isBreaking_iff_pattern {message : String} :
    isBreaking message = true ↔ ∃ found rest,
      message.toList.dropWhile isBlank = found ++ rest ∧ found ∈ markPattern.matches' := by
  unfold isBreaking
  rw [isSome_dropMark?_iff]
  constructor
  · rintro ⟨inner, rest, hdrop, hinner⟩
    exact ⟨'(' :: inner ++ [')'], rest, by simp [hdrop], mem_markPattern.mpr ⟨inner, rfl, hinner⟩⟩
  · rintro ⟨found, rest, hdrop, hfound⟩
    obtain ⟨inner, rfl, hinner⟩ := mem_markPattern.mp hfound
    exact ⟨inner, rest, by simp [hdrop], hinner⟩

/-! ## Messages that are alike -/

/-- Within the parentheses of the mark there is only ASCII, and no other parenthesis. -/
theorem SaysBreaking.ascii {inner : List Char} (h : SaysBreaking inner) :
    ∀ c ∈ inner, c.toNat < 0x80 ∧ c ≠ ')' := by
  obtain ⟨left, word, right, rfl, hleft, hword, hright⟩ := h
  have hspaces : ∀ c ∈ asciiSpaces, c.toNat < 0x80 ∧ c ≠ ')' :=
    forall_mem_of_all (by decide)
  have hletters : ∀ c ∈ "breaking".toList, c.toNat < 0x80 ∧ c ≠ ')' :=
    forall_mem_of_all (by decide)
  intro c hc
  rw [List.mem_append, List.mem_append] at hc
  rcases hc with (hc | hc) | hc
  · exact hspaces c (isAsciiSpace_iff.mp (hleft c hc))
  · have hletter : c.toLower ∈ "breaking".toList := hword ▸ List.mem_map_of_mem hc
    obtain ⟨hlower, hother⟩ := hletters _ hletter
    rw [toNat_toLower] at hlower
    refine ⟨by split at hlower <;> omega, ?_⟩
    rintro rfl
    exact hother (by decide)
  · exact hspaces c (isAsciiSpace_iff.mp (hright c hc))

theorem isBreaking_append {message : String} (h : isBreaking message = true) (more : String) :
    isBreaking (message ++ more) = true := by
  obtain ⟨opening, inner, rest, hcut, hopening, hinner⟩ := isBreaking_iff.mp h
  exact isBreaking_iff.mpr ⟨opening, inner, rest ++ more.toList, by simp [hcut], hopening, hinner⟩

theorem isBreaking_of_blanks {blanks : String} (h : isBlankText blanks = true) (message : String) :
    isBreaking (blanks ++ message) = isBreaking message := by
  have hblanks : ∀ c ∈ blanks.toList, isBlank c = true := List.all_eq_true.mp h
  unfold isBreaking
  rw [String.toList_append, List.dropWhile_append_of_pos hblanks]

/-- The mark is recognised by its grammar, which is also that of the pattern. Text after it and
blanks before it make no difference, and what only looks like it is not taken for it. -/
theorem isBreaking_exact (message : String) : MarkExact message where
  grammar := isBreaking_iff
  pattern := isBreaking_iff_pattern
  append h more := isBreaking_append h more
  blanksBefore blanks h := isBreaking_of_blanks h message
  lookAlike opening inner rest hcut hopening hinner hother := by
    refine Bool.eq_false_iff.mpr fun h => ?_
    obtain ⟨opening', inner', rest', hcut', hopening', hbreaking⟩ := isBreaking_iff.mp h
    rw [hcut, List.append_assoc, List.append_assoc] at hcut'
    -- Both cuts are at the first parenthesis of either kind, so the same stands between them.
    obtain ⟨-, -, hsame⟩ := cut_unique hcut' hopening isBlank_open hopening' isBlank_open
    have hinside : inner = inner' := by
      refine (cut_unique (p := (· != ')')) hsame ?_ (by decide) ?_ (by decide)).1
      · intro c hc
        simpa using fun hclose : c = ')' => hinner (hclose ▸ hc)
      · intro c hc
        simpa using (hbreaking.ascii c hc).2
    obtain ⟨c, hc, hpast⟩ := hother
    have hbound := (hbreaking.ascii c (hinside ▸ hc)).1
    omega
  textBefore opening c rest hcut hopening hc hopen := by
    refine Bool.eq_false_iff.mpr fun h => ?_
    obtain ⟨opening', inner, rest', hcut', hopening', -⟩ := isBreaking_iff.mp h
    rw [hcut, List.append_assoc] at hcut'
    exact hopen (cut_unique hcut' hopening hc hopening' isBlank_open).2.1

example : isBreaking "\u3000(\tBrEaKing )!" = true := by decide

example : isBreaking "(brea\u212Aing)" = false := by decide

end Stagehand.Message
