import WorkQuery.Proofs.Query.Acceptance
import WorkQuery.Proofs.Query.Meaning
import WorkQuery.Proofs.Text

/-!
# WorkQuery.Proofs.Query.Compiled

What has been made when a query has: one inversion lemma for each part of the compiler, so that no
other proof unfolds it.

* `Compiler.comparison_ok`, `windowComparisons_ok`, `termsCondition_ok`, `orderKeys_ok`: the parts.
* `Compiler.compile_ok`, `Compiler.compileText_ok`: the conditions of a query, for both shapes.
-/

namespace WorkQuery

/-! ## References and values -/

theorem Entries.mem_of_find? {α : Type} {key : String} {a : α} {es : Entries α}
    (h : es.find? key = some a) : a ∈ es.map Prod.snd := by
  induction es with
  | nil => cases h
  | cons e rest ih =>
    obtain ⟨k, b⟩ := e
    rw [Entries.find?] at h
    split at h
    · cases h
      exact List.mem_cons_self
    · exact List.mem_cons_of_mem _ (ih h)

theorem Registry.mem_of_resolve? {r : Registry} {name : String} {f : FieldDef}
    (h : r.resolve? name = some f) : f ∈ (r.byReference ++ r.byKey).map Prod.snd := by
  rw [List.map_append, List.mem_append]
  simp only [Registry.resolve?] at h
  split at h
  · rename_i found hfound
    cases h
    exact .inl (Entries.mem_of_find? hfound)
  · exact .inr (Entries.mem_of_find? h)

theorem checkReference_ok_iff {reference bare : String} :
    Quote.checkReference reference = .ok bare ↔
      bare = Text.trim reference ∧ bare.toList ≠ [] ∧ BracketFree bare := by
  have hfree : (Text.trim reference).toList.any (fun c => c == '[' || c == ']') = false ↔
      BracketFree (Text.trim reference) := by
    rw [BracketFree, List.any_eq_false, List.all_eq_true]
    simp
  simp only [Quote.checkReference]
  split
  · rename_i hempty
    simp only [reduceCtorEq, false_iff]
    rintro ⟨rfl, hne, _⟩
    exact hne (List.isEmpty_iff.mp hempty)
  · rename_i hempty
    split
    · rename_i hbracket
      simp only [reduceCtorEq, false_iff]
      rintro ⟨rfl, _, hbare⟩
      rw [hfree.mpr hbare] at hbracket
      cases hbracket
    · rename_i hbracket
      constructor
      · intro h
        cases h
        exact ⟨rfl, by simpa using hempty, hfree.mp (by simpa using hbracket)⟩
      · rintro ⟨rfl, _, _⟩
        rfl

theorem checkReference_ok {reference bare : String} (h : Quote.checkReference reference = .ok bare) :
    bare = Text.trim reference ∧ BracketFree bare := by
  obtain ⟨hbare, _, hfree⟩ := checkReference_ok_iff.mp h
  exact ⟨hbare, hfree⟩

theorem BracketFree.trim {s : String} (h : BracketFree s) : BracketFree (Text.trim s) := by
  unfold BracketFree at h ⊢
  rw [List.all_eq_true] at h ⊢
  intro c hc
  have hmem : c ∈ Text.trimChars s.toList := by simpa [Text.trim] using hc
  exact h c (Text.mem_trimChars hmem)

/-- A value that a text can be turned into instead of being kept. -/
def Value.IsTurned : Value → Prop
  | .day _ | .relative _ | .whole _ | .currentUser | .currentProject => True
  | _ => False

theorem DateExpr.toValue_turned (d : DateExpr) : d.toValue.IsTurned := by
  cases d <;> trivial

/-- A text is kept as it is or turned into a date, a number or a macro. -/
theorem render_text {field : FieldDef} {ctx : QueryContext} {t : String} {v : Value}
    (h : (Literal.text t).render field ctx = .ok v) : v = .text t ∨ v.IsTurned := by
  obtain ⟨reference, type⟩ := field
  cases type with
  | integer =>
    simp only [Literal.render] at h
    split at h
    · cases h; exact .inr trivial
    · cases h
  | dateTime =>
    simp only [Literal.render] at h
    split at h
    · cases h; exact .inr (DateExpr.toValue_turned _)
    · cases h
  | identity | string =>
    simp only [Literal.render, Except.ok.injEq] at h
    split at h
    · subst h; exact .inr trivial
    · exact .inl h.symm
  | treePath | plainText =>
    cases h
    exact .inl rfl

/-- A whole number is kept, as a number or as the text of one. -/
theorem render_integer {field : FieldDef} {ctx : QueryContext} {n : Int} {v : Value}
    (h : (Literal.integer n).render field ctx = .ok v) :
    v = .whole n ∨ v = .text (Numeral.intText n) := by
  obtain ⟨reference, type⟩ := field
  cases type with
  | integer => cases h; exact .inl rfl
  | string => cases h; exact .inr rfl
  | dateTime | identity | treePath | plainText => cases h

theorem Value.IsTurned.spelled {v : Value} (h : v.IsTurned) : v.IsSpelled := by
  cases v <;> trivial

theorem render_spelled {field : FieldDef} {ctx : QueryContext} {l : Literal} {v : Value}
    (h : l.render field ctx = .ok v) : v.IsSpelled := by
  cases l with
  | text t =>
    rcases render_text h with rfl | hturned
    · trivial
    · exact hturned.spelled
  | integer n => rcases render_integer h with rfl | rfl <;> trivial

/-! ## Parts of a filter -/

theorem Operator.isSearch_of_takesList {op : Operator} (h : op.takesList = true) :
    op.isSearch = false := by
  cases op <;> first | rfl | cases h

def Operand.literals : Operand → List Literal
  | .single l => [l]
  | .list ls => ls

namespace Compiler

variable {c : Compiler} {ctx : QueryContext}

theorem field_ok_iff {name : String} {field : FieldDef} :
    c.field name = .ok field ↔ c.registry.resolve? name = some field := by
  unfold Compiler.field
  cases c.registry.resolve? name with
  | none => simp
  | some found => simp

theorem checkReference_ok {field : FieldDef} {u : Unit}
    (h : Compiler.checkReference field = .ok u) : BracketFree (Text.trim field.reference) := by
  unfold Compiler.checkReference at h
  split at h
  · rename_i bare hbare
    obtain ⟨rfl, hfree⟩ := WorkQuery.checkReference_ok hbare
    exact hfree
  · cases h

/-- The comparison that a predicate asks for. -/
structure Asks (c : Compiler) (ctx : QueryContext) (p : Predicate) (cmp : Comparison) : Prop where
  field : c.registry.resolve? p.field = some cmp.field
  operator : cmp.operator = p.operator
  accepts : cmp.field.valueType.accepts p.operator = true
  values : List.Forall₂ (fun l v => l.render cmp.field ctx = .ok v) p.value.literals cmp.values
  nonempty : p.value.literals ≠ []
  single : p.operator.takesList = false → p.value.literals.length = 1
  search : ∀ t, .text t ∈ p.value.literals → p.operator.isSearch = true →
    Text.isBlankText t = false
  reference : BracketFree (Text.trim cmp.field.reference)

theorem literals_ok {field : FieldDef} {op : Operator} {value : Operand} {ls : List Literal}
    (h : literals field op value = .ok ls) :
    ls = value.literals ∧ ls ≠ [] ∧ (op.takesList = false → ls.length = 1) := by
  cases value with
  | single l =>
    cases h
    exact ⟨rfl, by simp, fun _ => rfl⟩
  | list items =>
    unfold literals at h
    simp only at h
    split at h
    · rename_i hop
      split at h
      · cases h
      · rename_i hne
        cases h
        exact ⟨rfl, by simpa using hne, fun hno => absurd hno (by simp [hop])⟩
    · split at h
      · rename_i hlen
        cases h
        exact ⟨rfl, by intro hnil; simp [hnil] at hlen, fun _ => hlen⟩
      · cases h

theorem checkSearch_ok {field : FieldDef} {op : Operator} {ls : List Literal} {u : Unit}
    (hsingle : op.takesList = false → ls.length = 1) (h : checkSearch field op ls = .ok u) :
    ∀ t, .text t ∈ ls → op.isSearch = true → Text.isBlankText t = false := by
  intro t ht hop
  have hlist : op.takesList = false := by
    cases hlist : op.takesList with
    | false => rfl
    | true => rw [Operator.isSearch_of_takesList hlist] at hop; cases hop
  obtain ⟨l, rfl⟩ := List.length_eq_one_iff.mp (hsingle hlist)
  obtain rfl := List.mem_singleton.mp ht
  simp only [checkSearch, hop, Bool.true_and] at h
  split at h
  · cases h
  · rename_i hblank
    simpa using hblank

theorem comparison_ok {p : Predicate} {cmp : Comparison} (h : c.comparison ctx p = .ok cmp) :
    Asks c ctx p cmp := by
  unfold comparison at h
  simp only [bind_ok_iff, refusal_ok_iff, mapM_ok_iff] at h
  obtain ⟨field, hfield, haccepts, ls, hls, _, hsearch, vs, hvs, _, hreference, h⟩ := h
  cases h
  obtain ⟨rfl, hne, hsingle⟩ := literals_ok hls
  exact ⟨field_ok_iff.mp hfield, rfl, by simpa using haccepts, hvs, hne, hsingle,
    checkSearch_ok hsingle hsearch, checkReference_ok hreference⟩

theorem Asks.spelled {p : Predicate} {cmp : Comparison} (h : Asks c ctx p cmp) : cmp.IsSpelled := by
  have hlen := h.values.length_eq
  refine ⟨h.reference, ?_, ?_, ?_⟩
  · intro v hv
    obtain ⟨l, _, hl⟩ := exists_left_of_mem h.values hv
    exact render_spelled hl
  · intro hnil
    rw [hnil] at hlen
    exact h.nonempty (List.length_eq_zero_iff.mp hlen)
  · intro hop
    rw [← hlen]
    exact h.single (by rw [← h.operator]; exact hop)

end Compiler

/-- The bounds of a date window: an operator and the value after it. -/
def DateWindow.bounds (w : DateWindow) (today : Date) : List (Operator × Value) :=
  (w.relative.toList.map fun period => (.ge, (period.resolve today).toValue))
    ++ (w.start.toList.map fun day => (.ge, .day day))
    ++ (w.finish.toList.map fun day => (.le, .day day))

/-- The condition that the title or the description has a search term. -/
def searches (term : String) : Condition :=
  .group (.join (.comparison ⟨FieldDef.title, .contains, [.text (Text.trim term)]⟩) .or
    (.comparison ⟨FieldDef.description, .containsWords, [.text (Text.trim term)]⟩))

def idConditions (ids : List Nat) : List Condition :=
  if ids.isEmpty then []
  else [.comparison ⟨FieldDef.id, .inList, ids.eraseDups.map fun (id : Nat) => .whole id⟩]

/-- The condition that any of these holds, if there are any. -/
def anyOf : List Condition → List Condition
  | [] => []
  | [single] => [single]
  | first :: rest => [.group (Condition.chain .or first rest)]

/-- The scope of the context, unless the project is pinned without it. -/
def QueryContext.scopeUnless (ctx : QueryContext) (pinned : Bool) : List Condition :=
  if pinned then [] else [ctx.scope]

/-- The condition of all search terms, if there are any. -/
def searchConditions (terms : List String) : List Condition := anyOf (terms.map searches)

namespace Compiler

variable {c : Compiler} {ctx : QueryContext}

/-- The comparisons that a date window asks for. -/
structure Bounds (c : Compiler) (ctx : QueryContext) (w : DateWindow) (field : FieldDef)
    (cmps : List Comparison) : Prop where
  resolves : c.registry.resolve? w.field = some field
  dated : field.valueType = .dateTime
  reference : BracketFree (Text.trim field.reference)
  comparisons : cmps = (w.bounds ctx.today).map fun b => ⟨field, b.1, [b.2]⟩

theorem windowComparisons_ok {w : DateWindow} {cmps : List Comparison}
    (h : c.windowComparisons ctx w = .ok cmps) : ∃ field, Bounds c ctx w field cmps := by
  unfold windowComparisons at h
  simp only [bind_ok_iff, refusal_ok_iff] at h
  obtain ⟨field, hfield, hdated, _, hreference, h⟩ := h
  refine ⟨field, field_ok_iff.mp hfield, by simpa using hdated, checkReference_ok hreference, ?_⟩
  obtain ⟨name, relative, start, finish⟩ := w
  cases relative with
  | some period =>
    -- a period stands alone, with no day beside it
    cases start <;> cases finish <;> cases h
    rfl
  | none =>
    cases start with
    | none =>
      cases finish <;> cases h
      rfl
    | some first =>
      cases finish with
      | none => cases h; rfl
      | some last =>
        by_cases hlt : last < first
        · simp only [DateWindow.range, hlt, if_pos] at h
          cases h
        · simp only [DateWindow.range, hlt, if_neg, not_false_eq_true] at h
          cases h
          rfl

theorem Bounds.spelled {w : DateWindow} {field : FieldDef} {cmps : List Comparison}
    (h : Bounds c ctx w field cmps) : ∀ cmp ∈ cmps, cmp.IsSpelled := by
  intro cmp hcmp
  rw [h.comparisons] at hcmp
  obtain ⟨b, hb, rfl⟩ := List.mem_map.mp hcmp
  refine ⟨h.reference, ?_, by simp, fun _ => rfl⟩
  have hvalue : b.2.IsSpelled := by
    simp only [DateWindow.bounds, List.mem_append, List.mem_map] at hb
    rcases hb with (⟨period, _, rfl⟩ | ⟨day, _, rfl⟩) | ⟨day, _, rfl⟩
    · exact (DateExpr.toValue_turned _).spelled
    · trivial
    · trivial
  simpa using hvalue

theorem termsCondition_ok {terms : List String} {conds : List Condition}
    (h : termsCondition terms = .ok conds) :
    (∀ t ∈ terms, (Text.trim t).toList ≠ []) ∧ conds = searchConditions terms := by
  unfold termsCondition at h
  rw [bind_ok_iff] at h
  obtain ⟨made, hmade, h⟩ := h
  rw [mapM_ok_iff] at hmade
  have hterm : ∀ t cond, termCondition t = .ok cond →
      (Text.trim t).toList ≠ [] ∧ cond = searches t := by
    intro t cond ht
    simp only [termCondition] at ht
    split at ht
    · cases ht
    · rename_i hne
      cases ht
      exact ⟨by simpa using hne, rfl⟩
  have hsearches : made = terms.map searches := by
    rw [← List.forall₂_eq_eq_eq, List.forall₂_map_right_iff]
    exact hmade.flip.imp fun cond t ht => (hterm t cond ht).2
  refine ⟨fun t ht => ?_, ?_⟩
  · obtain ⟨cond, _, hcond⟩ := exists_right_of_mem hmade ht
    exact (hterm t cond hcond).1
  · rw [searchConditions, ← hsearches]
    clear hmade hsearches
    rcases made with _ | ⟨first, _ | ⟨second, rest⟩⟩ <;> cases h <;> rfl

/-- What the conditions of a query are made of, for a filter. -/
structure Compiles (c : Compiler) (ctx : QueryContext) (f : ItemFilter) (q : Query)
    (comparisons windows : List Comparison) : Prop where
  asked : f.isEmpty = false
  ids : 0 ∉ f.ids
  predicates : List.Forall₂ (Asks c ctx) f.predicates comparisons
  window : (f.dateWindow = none ∧ windows = []) ∨
    ∃ w field, f.dateWindow = some w ∧ Bounds c ctx w field windows
  terms : ∀ t ∈ f.freeTextTerms, (Text.trim t).toList ≠ []
  conditions : q.conditions =
    ctx.scopeUnless (comparisons.any Comparison.pinsProject)
      ++ (idConditions f.ids ++ comparisons.map .comparison ++ windows.map .comparison
        ++ searchConditions f.freeTextTerms)
  order : ∀ k ∈ q.order, BracketFree (Text.trim k.reference)

theorem distinctIds_eq : ∀ (ids seen : List Nat),
    distinctIds seen ids = (ids.filter fun id => !seen.contains id).eraseDups := by
  intro ids
  induction ids with
  | nil => intro seen; rfl
  | cons id rest ih =>
    intro seen
    cases hseen : seen.contains id with
    | true => rw [distinctIds, hseen, if_pos rfl, ih, List.filter_cons_of_neg (by simpa using hseen)]
    | false =>
      have hsame : (rest.filter fun n => !(id :: seen).contains n)
          = (rest.filter fun n => !seen.contains n).filter fun n => !n == id := by
        rw [List.filter_filter]
        apply List.filter_congr
        intro n _
        by_cases hn : n = id <;> simp [hn]
      rw [distinctIds, hseen, if_neg (by simp), ih, List.filter_cons_of_pos (by simpa using hseen),
        List.eraseDups_cons, hsame]

theorem idsCondition_ok {ids : List Nat} {cond : Condition} (h : idsCondition ids = .ok cond) :
    0 ∉ ids ∧
      cond = .comparison ⟨FieldDef.id, .inList, ids.eraseDups.map fun (id : Nat) => .whole id⟩ := by
  unfold idsCondition at h
  split at h
  · cases h
  · rename_i hzero
    cases h
    refine ⟨by simpa using hzero, ?_⟩
    rw [distinctIds_eq]
    simp

theorem default_order_bare : BracketFree (Text.trim OrderKey.default.reference) := by
  unfold BracketFree
  decide +kernel

theorem orderKeys_ok {sort : Option SortSpec} {keys : List OrderKey} (h : c.orderKeys sort = .ok keys) :
    ∀ k ∈ keys, BracketFree (Text.trim k.reference) := by
  cases sort with
  | none =>
    cases h
    simpa using default_order_bare
  | some sort =>
    unfold orderKeys at h
    simp only [bind_ok_iff, refusal_ok_iff] at h
    obtain ⟨field, _, _, _, hreference, h⟩ := h
    have hfield := checkReference_ok hreference
    cases hsame : Text.sameIgnoringCase field.reference Reference.changedDate with
    | true =>
      simp only [hsame, if_true] at h
      cases h
      simpa using hfield
    | false =>
      simp only [hsame, Bool.false_eq_true, if_false] at h
      cases h
      simpa using ⟨hfield, default_order_bare⟩

/-- The conditions of a filter one after another, with the optional parts as results of their own. -/
theorem filterConditions_eq (f : ItemFilter) :
    c.filterConditions ctx f =
      (if f.ids.isEmpty then .ok [] else (idsCondition f.ids).map fun cond => [cond]) >>= fun ids =>
      f.predicates.mapM (c.comparison ctx) >>= fun comparisons =>
      (match f.dateWindow with
        | some w => c.windowComparisons ctx w
        | none => .ok []) >>= fun windows =>
      termsCondition f.freeTextTerms >>= fun terms =>
      .ok (ids ++ comparisons.map .comparison ++ windows.map .comparison ++ terms,
        comparisons.any Comparison.pinsProject) := by
  unfold filterConditions
  cases f.ids.isEmpty <;> cases f.dateWindow <;> rfl

theorem compile_ok {f : ItemFilter} {q : Query} (h : c.compile ctx f = .ok q) :
    ∃ comparisons windows, Compiles c ctx f q comparisons windows := by
  unfold compile at h
  simp only [refusal_ok_iff, filterConditions_eq, bind_ok_iff, mapM_ok_iff] at h
  obtain ⟨hempty, ⟨conditions, pinned⟩, ⟨ids, hids, comparisons, hcomparisons, windows, hwindows,
    terms, hterms, hmade⟩, cap, _, order, horder, h⟩ := h
  cases hmade
  cases h
  obtain ⟨hblank, rfl⟩ := termsCondition_ok hterms
  -- the numbers are checked only where there are any
  have hids : 0 ∉ f.ids ∧ ids = idConditions f.ids := by
    unfold idConditions
    cases hnone : f.ids.isEmpty with
    | true =>
      simp only [hnone, if_true] at hids
      cases hids
      exact ⟨by simp [List.isEmpty_iff.mp hnone], rfl⟩
    | false =>
      simp only [hnone, Bool.false_eq_true, if_false, map_ok_iff] at hids ⊢
      obtain ⟨cond, hcond, rfl⟩ := hids
      obtain ⟨hzero, rfl⟩ := idsCondition_ok hcond
      exact ⟨hzero, rfl⟩
  obtain ⟨hzero, rfl⟩ := hids
  refine ⟨comparisons, windows, by simpa using hempty, hzero,
    hcomparisons.imp fun _ _ => comparison_ok, ?_, hblank, ?_, orderKeys_ok horder⟩
  · cases hwindow : f.dateWindow with
    | none =>
      simp only [hwindow] at hwindows
      cases hwindows
      exact .inl ⟨rfl, rfl⟩
    | some w =>
      simp only [hwindow] at hwindows
      obtain ⟨field, hbounds⟩ := windowComparisons_ok hwindows
      exact .inr ⟨w, field, rfl, hbounds⟩
  · unfold Query.make QueryContext.scopeUnless
    split <;> simp

theorem compileText_ok {text : String} {q : Query} (h : c.compileText ctx text = .ok q) :
    ∃ tokens cond, Token.ofText text = .ok tokens ∧
      Writes c.registry ctx .condition (dropWhere tokens) cond ∧
      q.conditions = ctx.scopeUnless cond.isScoped ++ [.group cond] ∧
      q.order = [OrderKey.default] := by
  unfold compileText at h
  rw [bind_ok_iff] at h
  obtain ⟨cond, hcond, h⟩ := h
  cases h
  obtain ⟨tokens, htokens, hwrites⟩ := Condition.ofText_ok_iff.mp hcond
  exact ⟨tokens, cond, htokens, hwrites, rfl, rfl⟩

end Compiler
end WorkQuery
