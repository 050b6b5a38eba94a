import WorkQuery.Proofs.Intent.Parts
import WorkQuery.Proofs.Text.Matching
import WorkQuery.Proofs.Text.Runs

/-!
# WorkQuery.Proofs.Intent.QuotedPhrases

Phrases that an utterance has in double quotes.

* `Quotes.insides`: what stands between the quotes of a pair, if the first quote and the second make
  a pair, the third and the fourth, and so on.
* `Quotes.taken`: what is taken. A quote before a piece that is too short opens nothing, and the one
  after that piece is tried next, though it closes a pair. So what stands outside the pairs may be
  taken from there on.
* `Quotes.InStep`: the texts in which that does not happen (`taken_eq_insides_iff`).
* `Pattern.findAll_quoted`: the search for quoted phrases takes what it says.
* `Criteria.ofUtterance_phrases`: where the search terms in quotes come from.
-/

namespace WorkQuery

open Pattern Text

namespace Quotes

/-! ## Pieces between quotes -/

section Pieces

variable {α β : Type} {long : α → Bool}

/-- Of the pieces around the quotes of a text, those that stand between the quotes of a pair. -/
def insides : List α → List α
  | _ :: inside :: outside :: rest => inside :: insides (outside :: rest)
  | _ => []

/-- Of the pieces around the quotes of a text, those that are taken if they have to be long. -/
def taken (long : α → Bool) : List α → List α
  | _ :: inside :: next :: rest =>
    if long inside then inside :: taken long (next :: rest) else taken long (inside :: next :: rest)
  | _ => []

/-- After a pair with too short a piece between its quotes, the piece up to the next pair is too
short as well. -/
def InStep (long : α → Bool) : List α → Prop
  | _ :: inside :: outside :: next :: rest =>
    (long inside = true ∨ long outside = false) ∧ InStep long (outside :: next :: rest)
  | _ => True

instance decidableInStep : ∀ pieces : List α, Decidable (InStep long pieces)
  | _ :: _ :: outside :: next :: rest =>
    have := decidableInStep (outside :: next :: rest)
    inferInstanceAs (Decidable (_ ∧ _))
  | [] | [_] | [_, _] | [_, _, _] => isTrue trivial

theorem taken_cons (piece other : α) (rest : List α) :
    taken long (piece :: rest) = taken long (other :: rest) := by
  rcases rest with _ | ⟨inside, _ | ⟨next, rest⟩⟩ <;> rfl

theorem taken_short {piece inside : α} (h : long inside = false) (rest : List α) :
    taken long (piece :: inside :: rest) = taken long (inside :: rest) := by
  cases rest with
  | nil => rfl
  | cons next rest => rw [taken, h, if_neg Bool.false_ne_true]

theorem insides_sublist (pieces : List α) : (insides pieces).Sublist pieces.tail := by
  induction pieces using insides.induct with
  | case1 first inside outside rest ih => exact (ih.cons outside).cons_cons inside
  | case2 pieces hshort =>
    rw [insides.eq_2 _ hshort]
    exact List.nil_sublist _

/-- If no two pieces are the same, the pieces taken are the long ones of the pairs just if the search
stays in step with the pairs. -/
theorem taken_eq_insides_iff {pieces : List α} (h : pieces.Nodup) :
    taken long pieces = (insides pieces).filter long ↔ InStep long pieces := by
  induction pieces using InStep.induct with
  | case1 first inside outside next rest ih =>
    have hrest : (outside :: next :: rest).Nodup := h.of_cons.of_cons
    rw [insides, InStep]
    by_cases hin : long inside = true
    · rw [taken, if_pos hin, List.filter_cons_of_pos hin, List.cons_inj_right, ih hrest]
      exact (and_iff_right (.inl hin)).symm
    · rw [taken, if_neg hin, List.filter_cons_of_neg hin, taken]
      by_cases hout : long outside = true
      · rw [if_pos hout]
        refine iff_of_false (fun heq => ?_) fun hstep => ?_
        · -- what stands outside is taken, and no pair has it
          have hmem : outside ∈ (insides (outside :: next :: rest)).filter long :=
            heq ▸ List.mem_cons_self
          have hagain := (insides_sublist _).subset (List.mem_filter.mp hmem).1
          exact (List.nodup_cons.mp hrest).1 hagain
        · rcases hstep.1 with hin' | hout'
          · exact hin hin'
          · exact Bool.false_ne_true (hout'.symm.trans hout)
      · rw [if_neg hout, ih hrest]
        exact (and_iff_right (.inr (Bool.eq_false_iff.mpr hout))).symm
  | case2 pieces hshort =>
    rcases pieces with _ | ⟨first, _ | ⟨inside, _ | ⟨outside, _ | ⟨next, rest⟩⟩⟩⟩
    · exact iff_of_true rfl trivial
    · exact iff_of_true rfl trivial
    · exact iff_of_true rfl trivial
    · refine iff_of_true ?_ trivial
      by_cases hin : long inside = true
      · simp [taken, insides, hin]
      · simp [taken, insides, hin]
    · exact absurd rfl (hshort first inside outside next rest)

theorem insides_map (f : β → α) (pieces : List β) :
    insides (pieces.map f) = (insides pieces).map f := by
  induction pieces using insides.induct with
  | case1 first inside outside rest ih => exact congrArg (f inside :: ·) ih
  | case2 pieces hshort =>
    rcases pieces with _ | ⟨first, _ | ⟨inside, _ | ⟨outside, rest⟩⟩⟩
    · rfl
    · rfl
    · rfl
    · exact absurd rfl (hshort first inside outside rest)

theorem taken_map (f : β → α) (pieces : List β) :
    taken long (pieces.map f) = (taken (long ∘ f) pieces).map f := by
  induction pieces using (taken.induct (long ∘ f)) with
  | case1 first inside next rest hin ih =>
    have htaken : taken long ((first :: inside :: next :: rest).map f) =
        f inside :: taken long ((next :: rest).map f) := if_pos hin
    rw [htaken, ih, taken, if_pos hin, List.map_cons]
  | case2 first inside next rest hin ih =>
    have htaken : taken long ((first :: inside :: next :: rest).map f) =
        taken long ((inside :: next :: rest).map f) := if_neg hin
    rw [htaken, ih, taken, if_neg hin]
  | case3 pieces hshort =>
    rcases pieces with _ | ⟨first, _ | ⟨inside, _ | ⟨next, rest⟩⟩⟩
    · rfl
    · rfl
    · rfl
    · exact absurd rfl (hshort first inside next rest)

end Pieces

/-- The pieces of a text around its double quotes. -/
def pieces (text : List Char) : List (List Char) := text.splitOn '"'

theorem pieces_eq (text : List Char) : pieces text = splitWhere (· == '"') text := by
  rw [pieces, List.splitOn_eq_splitOnP, splitWhere_eq_splitOnP]

theorem pieces_word {word : List Char} (h : '"' ∉ word) : pieces word = [word] := by
  rw [pieces_eq, splitWhere_word]
  intro c hc
  rw [beq_eq_false_iff_ne]
  rintro rfl
  exact h hc

theorem pieces_append {word : List Char} (h : '"' ∉ word) (rest : List Char) :
    pieces (word ++ '"' :: rest) = word :: pieces rest := by
  rw [pieces_eq, splitWhere_append (p := (· == '"')) word (beq_self_eq_true _), ← pieces_eq,
    ← pieces_eq, pieces_word h, List.singleton_append]

theorem pieces_ne_nil (text : List Char) : pieces text ≠ [] := by
  rw [pieces_eq]
  exact splitWhere_ne_nil text

/-- Whether a piece has so many characters or more. -/
def longEnough (least : Nat) (piece : List Char) : Bool := least ≤ piece.length

/-- A character before the first quote does not matter for what is taken. -/
theorem taken_pieces_cons {long : List Char → Bool} {c : Char} (hc : c ≠ '"') (rest : List Char) :
    taken long (pieces (c :: rest)) = taken long (pieces rest) := by
  by_cases hrest : '"' ∈ rest
  · obtain ⟨word, more, rfl, hword⟩ := List.eq_append_cons_of_mem hrest
    have hcons : '"' ∉ c :: word := by simp [hword, hc.symm]
    rw [pieces_append hword, ← List.cons_append, pieces_append hcons, taken_cons]
  · have hcons : '"' ∉ c :: rest := by simp [hrest, hc.symm]
    rw [pieces_word hrest, pieces_word hcons]
    rfl

end Quotes

/-! ## The search -/

namespace Pattern

open Quotes

variable {index least : Nat}

/-- The text begins with a quote, and enough stands up to the next one. -/
def OpensPhrase (least : Nat) (text : List Char) : Prop := ∃ inside after,
  text = '"' :: (inside ++ '"' :: after) ∧ '"' ∉ inside ∧ least ≤ inside.length

theorem leads_quoted {before : Option Char} {rest : List Char} {b : Place}
    (h : (Patterns.quoted index least).Leads ⟨before, rest, []⟩ b) : OpensPhrase least rest := by
  obtain ⟨s, hopen, hrest⟩ := leads_all_cons.mp h
  obtain ⟨e, ⟨stop, ⟨inside, hinside, -, hall, hleast, -⟩, rfl⟩, hclose⟩ := leads_all_cons.mp hrest
  obtain ⟨hopen, -⟩ := leads_char hopen
  obtain ⟨hclose, -⟩ := leads_char hclose
  refine ⟨inside, b.rest, ?_, fun hmem => ?_, hleast⟩
  · rw [← hclose, ← hinside.rest]
    exact hopen
  · simpa using hall '"' hmem

/-- A quote before enough text up to the next quote is found. -/
theorem outcomes_quoted (index : Nat) (before : Option Char) {inside : List Char}
    (after : List Char) (hinside : '"' ∉ inside) (hleast : least ≤ inside.length) : ∃ others,
    (Patterns.quoted index least).outcomes ⟨before, '"' :: (inside ++ '"' :: after), []⟩ =
      ⟨some '"', after, [(index, inside ++ '"' :: after, '"' :: after)]⟩ :: others := by
  have haccepts : ∀ c ∈ inside, (c != '"') = true := by
    intro c hc
    rw [bne_iff_ne]
    rintro rfl
    exact hinside hc
  have hfar : (runFrom (· != '"') [] least (inside ++ '"' :: after).length (some '"')
      (inside ++ '"' :: after) []).head? = some ⟨_, '"' :: after, []⟩ :=
    head?_runFrom_append haccepts (by decide) hleast
  obtain ⟨others, hrun⟩ := List.head?_eq_some_iff.mp hfar
  simp only [Patterns.quoted, all, outcomes, outcomes_char, Option.getD_none, hrun,
    List.flatMap_cons, List.map_cons, List.flatMap_nil, List.append_nil, List.singleton_append]
  exact ⟨_, rfl⟩

theorem outcomes_quoted_eq_nil {before : Option Char} {rest : List Char}
    (h : ¬OpensPhrase least rest) :
    (Patterns.quoted index least).outcomes ⟨before, rest, []⟩ = [] := by
  rw [List.eq_nil_iff_forall_not_mem]
  exact fun b hb => h (leads_quoted (leads_of_mem_outcomes _ hb))

/-- Where no phrase begins the search goes on with the next character. -/
theorem taken_pieces_of_not_opens {c : Char} {tail : List Char} (h : ¬OpensPhrase least (c :: tail)) :
    taken (longEnough least) (pieces (c :: tail)) = taken (longEnough least) (pieces tail) := by
  by_cases hc : c = '"'
  · subst hc
    have hquote : pieces ('"' :: tail) = [] :: pieces tail := pieces_append List.not_mem_nil tail
    rw [hquote]
    by_cases htail : '"' ∈ tail
    · obtain ⟨inside, after, rfl, hinside⟩ := List.eq_append_cons_of_mem htail
      have hshort : longEnough least inside = false := by
        rw [longEnough, decide_eq_false_iff_not]
        exact fun hleast => h ⟨inside, after, rfl, hinside, hleast⟩
      rw [pieces_append hinside, taken_short hshort]
    · rw [pieces_word htail]
      rfl
  · exact taken_pieces_cons hc tail

/-- The first phrase found from a place on is the first one taken there, and the search goes on with
what is taken after it. -/
theorem findFrom_quoted (index least : Nat) (before : Option Char) (rest : List Char) :
    ((Patterns.quoted index least).findFrom before rest = none ∧
      taken (longEnough least) (pieces rest) = []) ∨
    ∃ b inside, (Patterns.quoted index least).findFrom before rest = some b ∧
      b.text? index = some inside ∧ b.rest.length < rest.length ∧
      taken (longEnough least) (pieces rest) =
        inside :: taken (longEnough least) (pieces b.rest) := by
  induction rest generalizing before with
  | nil =>
    have hnone : ¬OpensPhrase least [] := by
      rintro ⟨inside, after, heq, -⟩
      cases heq
    exact .inl ⟨by rw [findFrom_eq, outcomes_quoted_eq_nil hnone]; rfl, rfl⟩
  | cons c tail ih =>
    by_cases hopens : OpensPhrase least (c :: tail)
    · obtain ⟨inside, after, heq, hinside, hleast⟩ := hopens
      obtain ⟨others, houtcomes⟩ := outcomes_quoted index before after hinside hleast
      refine .inr ⟨_, inside, by rw [findFrom_eq, heq, houtcomes]; rfl, ?_, ?_, ?_⟩
      · simp [Place.text?]
      · rw [heq]
        simp only [List.length_cons, List.length_append]
        omega
      · have hpieces : pieces (c :: tail) = [] :: inside :: pieces after := by
          rw [heq, ← List.nil_append ('"' :: _), pieces_append List.not_mem_nil,
            pieces_append hinside]
        obtain ⟨next, more, hmore⟩ := List.exists_cons_of_ne_nil (pieces_ne_nil after)
        have hlong : longEnough least inside = true := decide_eq_true hleast
        rw [hpieces, hmore, taken, if_pos hlong]
    · have hnext : (Patterns.quoted index least).findFrom before (c :: tail) =
          (Patterns.quoted index least).findFrom (some c) tail := by
        rw [findFrom_eq, outcomes_quoted_eq_nil hopens]
        rfl
      rw [hnext, taken_pieces_of_not_opens hopens]
      refine (ih (some c)).imp_right ?_
      rintro ⟨b, inside, hfind, htext, hlength, htaken⟩
      exact ⟨b, inside, hfind, htext, by rw [List.length_cons]; omega, htaken⟩

/-- The phrases found are the pieces taken. -/
theorem findAll_quoted (index least : Nat) (text : List Char) :
    ((Patterns.quoted index least).findAll text).map (·.text? index) =
      (taken (longEnough least) (pieces text)).map some := by
  have hrun : ∀ (fuel : Nat) {before : Option Char} {rest : List Char}, rest.length < fuel →
      ((Patterns.quoted index least).findAllFrom fuel before rest).map (·.text? index) =
        (taken (longEnough least) (pieces rest)).map some := by
    intro fuel
    induction fuel with
    | zero => exact fun hfuel => absurd hfuel (Nat.not_lt_zero _)
    | succ fuel ih =>
      intro before rest hfuel
      rcases findFrom_quoted index least before rest with
        ⟨hfind, htaken⟩ | ⟨b, inside, hfind, htext, hlength, htaken⟩
      · rw [findAllFrom, hfind, htaken]
        rfl
      · simp only [findAllFrom, hfind, htaken, List.map_cons, htext]
        rw [ih (by omega)]
  exact hrun _ (Nat.lt_succ_self _)

end Pattern

/-! ## Search terms -/

namespace Criteria

open Quotes

/-- A piece without the blanks around it, unless nothing is left. -/
def phraseOf (piece : List Char) : Option String :=
  if (trimChars piece).isEmpty then none else some (String.ofList (trimChars piece))

theorem phraseOf_eq_some_iff {piece : List Char} {phrase : String} :
    phraseOf piece = some phrase ↔ trimChars piece ≠ [] ∧ phrase = String.ofList (trimChars piece) := by
  rw [phraseOf, Option.ite_none_left_eq_some, List.isEmpty_iff, Option.some_inj,
    eq_comm (a := phrase)]

theorem keptPhrase_eq_phraseOf {place : Place} {piece : List Char}
    (h : place.text? 1 = some piece) : keptPhrase place = phraseOf piece := by
  simp [keptPhrase, phraseOf, h]

theorem filterMap_keptPhrase (text : List Char) :
    (Patterns.quotedPhrase.findAll text).filterMap keptPhrase =
      (taken (longEnough 2) (pieces text)).filterMap phraseOf := by
  have hfound : (Patterns.quotedPhrase.findAll text).map (·.text? 1) =
      (taken (longEnough 2) (pieces text)).map some := findAll_quoted 1 2 text
  have hkept : ∀ place ∈ Patterns.quotedPhrase.findAll text,
      keptPhrase place = (place.text? 1).bind phraseOf := by
    intro place hplace
    have hmem := List.mem_map_of_mem (f := (·.text? 1)) hplace
    rw [hfound] at hmem
    obtain ⟨piece, -, hpiece⟩ := List.mem_map.mp hmem
    rw [keptPhrase_eq_phraseOf hpiece.symm, ← hpiece, Option.bind_some]
  calc (Patterns.quotedPhrase.findAll text).filterMap keptPhrase
      = (Patterns.quotedPhrase.findAll text).filterMap ((·.bind phraseOf) ∘ (·.text? 1)) :=
        List.filterMap_congr hkept
    _ = ((taken (longEnough 2) (pieces text)).map some).filterMap (·.bind phraseOf) := by
        rw [← hfound, List.filterMap_map]
    _ = (taken (longEnough 2) (pieces text)).filterMap phraseOf := by
        rw [List.filterMap_map]
        rfl

theorem quotedTerms_eq (text : List Char) : quotedTerms text =
    ((taken (longEnough 2) (pieces text)).filterMap phraseOf).filter
      fun phrase => phrase ∉ usedPhrases text := by
  rw [quotedTerms, filterMap_keptPhrase]
  refine List.filter_congr fun phrase _ => ?_
  simp

/-- The terms are those of the pairs of quotes: each is the text of a pair without the blanks around
it, and each pair of two or more characters has its term, unless it is blank or has been used. -/
structure PhrasesOfPairs (text : List Char) (terms : List String) : Prop where
  inside : ∀ term ∈ terms, ∃ inside ∈ insides (pieces text), term.toList = trimChars inside
  complete : ∀ inside ∈ insides (pieces text), 2 ≤ inside.length → trimChars inside ≠ [] →
    String.ofList (trimChars inside) ∉ usedPhrases text →
    String.ofList (trimChars inside) ∈ terms

theorem phrasesOfPairs_of_taken {text : List Char}
    (h : taken (longEnough 2) (pieces text) = (insides (pieces text)).filter (longEnough 2)) :
    PhrasesOfPairs text (quotedTerms text) := by
  rw [quotedTerms_eq, h]
  refine ⟨fun term hterm => ?_, fun inside hinside hlong hne hunused => ?_⟩
  · obtain ⟨piece, hpiece, hphrase⟩ := List.mem_filterMap.mp (List.mem_filter.mp hterm).1
    obtain ⟨-, rfl⟩ := phraseOf_eq_some_iff.mp hphrase
    exact ⟨piece, (List.mem_filter.mp hpiece).1, String.toList_ofList⟩
  · rw [List.mem_filter, List.mem_filterMap, decide_eq_true_iff]
    refine ⟨⟨inside, ?_, phraseOf_eq_some_iff.mpr ⟨hne, rfl⟩⟩, hunused⟩
    exact List.mem_filter.mpr ⟨hinside, decide_eq_true hlong⟩

/-- The search terms in quotes are the phrases that are taken and have not been used. The pieces taken
are the longer ones of the pairs of quotes just if the search stays in step with the pairs, and then
the terms are those of the pairs. -/
theorem ofUtterance_phrases (r : Registry) (utterance : String) :
    let text := utterance.toList
    let numbered := (pieces text).zipIdx
    let long := fun piece : List Char × Nat => longEnough 2 piece.1
    (ofUtterance r utterance).filter.freeTextTerms = quotedTerms text ++ mentionedTerms r text ∧
    quotedTerms text = ((taken long numbered).filterMap fun piece => phraseOf piece.1).filter
      (fun phrase => phrase ∉ usedPhrases text) ∧
    (taken long numbered = (insides numbered).filter long ↔ InStep long numbered) ∧
    (InStep long numbered → PhrasesOfPairs text (quotedTerms text)) := by
  intro text numbered long
  have hpieces : numbered.map Prod.fst = pieces text := List.zipIdx_map_fst _ _
  have htaken : taken (longEnough 2) (pieces text) = (taken long numbered).map Prod.fst := by
    rw [← hpieces, taken_map]
    rfl
  have hinsides : (insides (pieces text)).filter (longEnough 2) =
      ((insides numbered).filter long).map Prod.fst := by
    rw [← hpieces, insides_map, List.filter_map]
    rfl
  have hnodup : numbered.Nodup := by
    refine List.Nodup.of_map Prod.snd ?_
    rw [List.zipIdx_map_snd]
    exact List.nodup_range'
  refine ⟨ofUtterance_freeTextTerms r utterance, ?_, taken_eq_insides_iff hnodup, fun hstep => ?_⟩
  · rw [quotedTerms_eq, htaken, List.filterMap_map]
    rfl
  · refine phrasesOfPairs_of_taken ?_
    rw [htaken, hinsides, (taken_eq_insides_iff hnodup).mpr hstep]

/-- The phrase that names the tag is no search term. -/
theorem ofUtterance_phrases_tagged :
    let text := "bugs tagged \"ui\" about \"login loop\"".toList
    InStep (fun piece : List Char × Nat => longEnough 2 piece.1) (pieces text).zipIdx ∧
      quotedTerms text = ["login loop"] ∧ PhrasesOfPairs text (quotedTerms text) := by
  intro text
  have hstep : InStep (fun piece : List Char × Nat => longEnough 2 piece.1)
      (pieces text).zipIdx := by decide +kernel
  exact ⟨hstep, by decide +kernel,
    (ofUtterance_phrases Registry.standard "bugs tagged \"ui\" about \"login loop\"").2.2.2 hstep⟩

/-- One character between quotes opens nothing, so that what stands between the two pairs is taken and
the second pair is passed over. -/
theorem ofUtterance_phrases_outside :
    let text := "bugs about \"x\" and \"login loop\"".toList
    insides (pieces text) = ["x".toList, "login loop".toList] ∧
      (ofUtterance Registry.standard "bugs about \"x\" and \"login loop\"").filter.freeTextTerms =
        ["and"] ∧ ¬PhrasesOfPairs text (quotedTerms text) := by
  intro text
  have hterms : quotedTerms text = ["and"] := by decide +kernel
  have hother : ∀ inside ∈ insides (pieces text), "and".toList ≠ trimChars inside := by
    decide +kernel
  refine ⟨by decide +kernel, by decide +kernel, fun hpairs => ?_⟩
  obtain ⟨inside, hinside, heq⟩ := hpairs.inside "and" (by rw [hterms]; exact List.mem_singleton_self _)
  exact hother inside hinside heq

end Criteria
end WorkQuery
