import WorkQuery.Proofs.Data.JsonText
import WorkQuery.Proofs.Data.Records
import WorkQuery.Proofs.Text.Blocks

/-!
# WorkQuery.Proofs.Data.PlainData

Values that hold whole numbers of 64 bits only.

* `isPlain_present`, `isPlain_listField`, `isPlain_map`: records and lists of such values.
* `Json.linesBegin_prettyChars`: printed with one member or item to a line, such a value has lines
  that begin with a space or a closing bracket, but for the first.
-/

namespace WorkQuery
namespace Data

theorem isPlain_present {names : List String} {fields : List (Option Data)}
    (h : ∀ d, some d ∈ fields → d.isPlain = true) : (record (present names fields)).isPlain = true := by
  rw [isPlain_record, List.all_eq_true]
  exact fun m hm => h m.2 (mem_present hm).2

theorem isPlain_ofNat {n : Nat} (h : n ≤ Numeral.maxUInt64) : (ofNat n).isPlain = true := by
  simp only [ofNat, isPlain, Json.isExact, Bool.and_eq_true, decide_eq_true_eq]
  omega

theorem isPlain_integer {n : Int} (h : Numeral.isInt64 n = true) : (integer n).isPlain = true := by
  have hn : -(Numeral.maxInt64 + 1 : Int) ≤ n ∧ n ≤ (Numeral.maxInt64 : Int) := by
    simpa [Numeral.isInt64] using h
  have hmax : Numeral.maxInt64 ≤ Numeral.maxUInt64 := by decide
  simp only [isPlain, Json.isExact, Bool.and_eq_true, decide_eq_true_eq]
  omega

theorem isPlain_listField {α : Type} {encode : α → Data} {as : List α}
    (h : ∀ a ∈ as, (encode a).isPlain = true) (d : Data) (hd : some d = listField encode as) :
    d.isPlain = true := by
  cases as with
  | nil => cases hd
  | cons a as =>
    cases hd
    rw [isPlain_list, List.all_map, List.all_eq_true]
    exact h

theorem isPlain_map {α : Type} {encode : α → Data} {o : Option α}
    (h : ∀ a ∈ o, (encode a).isPlain = true) (d : Data) (hd : some d = o.map encode) :
    d.isPlain = true := by
  obtain ⟨a, ha, rfl⟩ := Option.map_eq_some_iff.mp hd.symm
  exact h a ha

namespace Json

open Text (LinesBegin linesBegin_of_not_mem)

/-! ## Lines of a printed value -/

/-- Whether a line other than the first may begin with the character. -/
def beginsLine (c : Char) : Bool := c == ' ' || c == ']' || c == '}'

theorem linesBegin_lineStart (level : Nat) : LinesBegin beginsLine (lineStart (level + 1)) := by
  rw [lineStart, show 2 * (level + 1) = (2 * level + 1) + 1 by omega, List.replicate_succ]
  refine .line rfl (linesBegin_of_not_mem fun hmem => ?_)
  rcases List.mem_cons.mp hmem with heq | hmem
  · cases heq
  · cases List.eq_of_mem_replicate hmem

theorem linesBegin_close {c : Char} (hc : c = ']' ∨ c = '}') (level : Nat) :
    LinesBegin beginsLine (lineStart level ++ [c]) := by
  have hline : '\n' ∉ [c] := by rcases hc with rfl | rfl <;> decide
  cases level with
  | zero => rcases hc with rfl | rfl <;> exact .line rfl (linesBegin_of_not_mem hline)
  | succ level => exact (linesBegin_lineStart level).append (linesBegin_of_not_mem hline)

/-! ## Scalars stand on one line -/

theorem newline_not_mem_escapeChar (c : Char) : '\n' ∉ escapeChar c := by
  have hhex : ∀ n < 16, '\n' ≠ Nat.digitChar n := by decide
  unfold escapeChar
  split
  · decide
  split
  · decide
  split
  · decide
  split
  · decide
  split
  · decide
  split
  · decide
  split
  · decide
  split
  · next hcontrol =>
    simp [hhex (c.toNat / 16) (by omega), hhex (c.toNat % 16) (by omega)]
  · next hline _ _ _ =>
    simpa using Ne.symm hline

theorem newline_not_mem_stringChars (s : String) : '\n' ∉ stringChars s := by
  have hbody : '\n' ∉ s.toList.flatMap escapeChar := by
    intro hmem
    obtain ⟨c, -, hc⟩ := List.mem_flatMap.mp hmem
    exact newline_not_mem_escapeChar c hc
  simpa [stringChars] using hbody

theorem newline_not_mem_intText (n : Int) : '\n' ∉ (Numeral.intText n).toList := by
  have hdigits : ∀ n : Nat, '\n' ∉ Numeral.digits n := fun n hmem =>
    absurd (Numeral.isDigit_of_mem_digits hmem) (by decide)
  cases n with
  | ofNat n => simpa [Numeral.intText, Numeral.natText] using hdigits n
  | negSucc n => simpa [Numeral.intText] using hdigits (n + 1)

/-! ## Values -/

mutual

theorem linesBegin_prettyChars : ∀ (d : Data) (level : Nat), d.isPlain = true →
    LinesBegin beginsLine (prettyChars level d)
  | .null, _, _ | .bool true, _, _ | .bool false, _, _ | .list [], _, _ | .record [], _, _ =>
    linesBegin_of_not_mem (by simp [prettyChars, chars])
  | .integer n, _, _ => linesBegin_of_not_mem (newline_not_mem_intText n)
  | .string s, _, _ => linesBegin_of_not_mem (newline_not_mem_stringChars s)
  | .list (item :: items), level, h => by
    have hitems := linesBegin_prettyItems (item :: items) level h
    have hall := (hitems.cons (c := '[') (by decide)).append (linesBegin_close (.inl rfl) level)
    simpa [prettyChars] using hall
  | .record (m :: members), level, h => by
    have hmembers := linesBegin_prettyMembers (m :: members) level h
    have hall := (hmembers.cons (c := '{') (by decide)).append (linesBegin_close (.inr rfl) level)
    simpa [prettyChars] using hall

theorem linesBegin_prettyItems : ∀ (items : List Data) (level : Nat), itemsPlain items = true →
    LinesBegin beginsLine (prettyItems (level + 1) items)
  | [], _, _ => linesBegin_of_not_mem List.not_mem_nil
  | [item], level, h => by
    have hitem := linesBegin_prettyChars item (level + 1) (Bool.and_eq_true_iff.mp h).1
    exact (linesBegin_lineStart level).append hitem
  | item :: next :: items, level, h => by
    obtain ⟨hitem, hitems⟩ := Bool.and_eq_true_iff.mp h
    exact ((linesBegin_lineStart level).append (linesBegin_prettyChars item (level + 1) hitem)).append
      (.cons (by decide) (linesBegin_prettyItems (next :: items) level hitems))

theorem linesBegin_prettyMembers : ∀ (members : List (String × Data)) (level : Nat),
    membersPlain members = true → LinesBegin beginsLine (prettyMembers (level + 1) members)
  | [], _, _ => linesBegin_of_not_mem List.not_mem_nil
  | [(name, value)], level, h => by
    have hvalue := linesBegin_prettyChars value (level + 1) (Bool.and_eq_true_iff.mp h).1
    exact ((linesBegin_lineStart level).append (linesBegin_of_not_mem (newline_not_mem_stringChars name))).append
      (.cons (by decide) (.cons (by decide) hvalue))
  | (name, value) :: next :: members, level, h => by
    obtain ⟨hvalue, hmembers⟩ := Bool.and_eq_true_iff.mp h
    exact (((linesBegin_lineStart level).append
      (linesBegin_of_not_mem (newline_not_mem_stringChars name))).append
      (.cons (by decide) (.cons (by decide) (linesBegin_prettyChars value (level + 1) hvalue)))).append
      (.cons (by decide) (linesBegin_prettyMembers (next :: members) level hmembers))

end

end Json
end Data
end WorkQuery
