import WorkQuery.Proofs.Data.JsonText
import WorkQuery.Proofs.Filter.Decoding
import WorkQuery.Proofs.Intent.Decisions

/-!
# WorkQuery.Proofs.Intent.Replies

The oracle's replies are read strictly.

* `Decision.Follows`: what a decision takes from the document of a reply, and what of it has been
  checked.
* `DecisionDraft.ofData?_strict`: no member beyond the declared ones is accepted at any place.
* `Decision.ofReply_strict`: a reply fails, or its decision follows its document and no reply with an
  undeclared member more is accepted.
-/

namespace WorkQuery

/-- The document that a reply writes. -/
def Reply.document? (reply : String) : Option Data :=
  (Reply.jsonChars reply.toList).toOption.bind Data.Json.ofChars?

/-! ## Names of types -/

def Literal.mapText (f : String → String) : Literal → Literal
  | .text s => .text (f s)
  | .integer n => .integer n

def Operand.mapText (f : String → String) : Operand → Operand
  | .single value => .single (value.mapText f)
  | .list values => .list (values.map (Literal.mapText f))

/-- Whether the name leads to the field of the types of items. -/
def Registry.NamesType (r : Registry) (name : String) : Prop :=
  ∃ field, r.resolve? name = some field ∧ field.reference = Reference.workItemType

/-- The second predicate is the first with the store's names of types, if it is about the type. -/
structure Predicate.Renames (r : Registry) (p named : Predicate) : Prop where
  field : named.field = p.field
  operator : named.operator = p.operator
  type : r.NamesType p.field →
    named.value = p.value.mapText fun name => (r.normalizeWorkItemType name).name
  other : ¬ r.NamesType p.field → named.value = p.value

/-- The second filter is the first with the store's names of types in its predicates. -/
def ItemFilter.Renames (r : Registry) (f named : ItemFilter) : Prop :=
  named = { f with predicates := named.predicates } ∧
    List.Forall₂ (Predicate.Renames r) f.predicates named.predicates

theorem Literal.asTypeName_eq (r : Registry) (l : Literal) :
    l.asTypeName r = l.mapText fun name => (r.normalizeWorkItemType name).name := by
  cases l <;> rfl

theorem Predicate.renames_withTypeNames (r : Registry) (p : Predicate) :
    p.Renames r (p.withTypeNames r) := by
  unfold withTypeNames
  split
  · next field hfield =>
    split
    · next htype =>
      refine ⟨rfl, rfl, fun _ => ?_, fun hother => absurd ⟨field, hfield, htype⟩ hother⟩
      have hliteral := funext (Literal.asTypeName_eq r)
      cases hvalue : p.value <;> simp [Operand.mapText, hliteral]
    · next htype =>
      refine ⟨rfl, rfl, fun ⟨field', hfield', htype'⟩ => ?_, fun _ => rfl⟩
      cases hfield.symm.trans hfield'
      exact absurd htype' htype
  · next hfield =>
    refine ⟨rfl, rfl, fun ⟨field', hfield', _⟩ => ?_, fun _ => rfl⟩
    cases hfield.symm.trans hfield'

theorem ItemFilter.renames_withTypeNames (r : Registry) (f : ItemFilter) :
    f.Renames r (f.withTypeNames r) := by
  refine ⟨rfl, ?_⟩
  simp only [withTypeNames, List.forall₂_map_right_iff, List.forall₂_same]
  exact fun p _ => p.renames_withTypeNames r

/-! ## Drafts -/

namespace DecisionDraft

variable {d : Data}

theorem analysisOfData?_iff {a : AnalysisType × Option String × Option String} :
    analysisOfData? d = some a ↔ ∃ type format prompt,
    d.fields? true ["analysis_type", "format_requirements", "prompt"] = some [type, format, prompt] ∧
    Data.required? AnalysisRequest.typeOfData? type = some a.1 ∧
    Data.maybe? Data.string? format = some a.2.1 ∧ Data.maybe? Data.string? prompt = some a.2.2 := by
  unfold analysisOfData?
  constructor
  · intro h
    split at h
    · next type format prompt hgiven =>
      simp only [Option.bind_eq_bind, Option.bind_eq_some_iff, Option.pure_def, Option.some.injEq] at h
      obtain ⟨_, htype, _, hformat, _, hprompt, rfl⟩ := h
      exact ⟨_, _, _, hgiven, htype, hformat, hprompt⟩
    · cases h
  · rintro ⟨type, format, prompt, hgiven, htype, hformat, hprompt⟩
    obtain ⟨name, rfl, hname⟩ := Option.bind_eq_some_iff.mp htype
    simp [hgiven, hname, hformat, hprompt]

def fieldNames : List String := ["intent_type", "confidence", "filter", "analysis", "reasoning"]

theorem ofData?_iff {draft : DecisionDraft} : ofData? d = some draft ↔
    ∃ kind confidence filter analysis reasoning,
    d.fields? true fieldNames = some [kind, confidence, filter, analysis, reasoning] ∧
    Data.required? IntentKind.ofData? kind = some draft.kind ∧
    Data.required? Data.float? confidence = some draft.confidence ∧
    Data.maybe? ItemFilter.ofData? filter = some draft.filter ∧
    Data.maybe? analysisOfData? analysis = some draft.analysis ∧
    Data.withDefault? "" Data.string? reasoning = some draft.reasoning := by
  unfold ofData?
  constructor
  · intro h
    split at h
    · next kind confidence filter analysis reasoning hgiven =>
      simp only [Option.bind_eq_bind, Option.bind_eq_some_iff, Option.pure_def, Option.some.injEq] at h
      obtain ⟨_, hkind, _, hconfidence, _, hfilter, _, hanalysis, _, hreasoning, rfl⟩ := h
      exact ⟨_, _, _, _, _, hgiven, hkind, hconfidence, hfilter, hanalysis, hreasoning⟩
    · cases h
  · rintro ⟨kind, confidence, filter, analysis, reasoning, hgiven, hkind, hconfidence, hfilter,
      hanalysis, hreasoning⟩
    obtain ⟨name, rfl, hname⟩ := Option.bind_eq_some_iff.mp hkind
    obtain ⟨number, rfl, hnumber⟩ := Option.bind_eq_some_iff.mp hconfidence
    rw [fieldNames] at hgiven
    simp [hgiven, hname, hnumber, hfilter, hanalysis, hreasoning]

/-- The names that are declared at the places of a decision. -/
def schema : Schema :=
  .record [("intent_type", .leaf), ("confidence", .leaf), ("filter", ItemFilter.schema),
    ("analysis",
      .record [("analysis_type", .leaf), ("format_requirements", .leaf), ("prompt", .leaf)]),
    ("reasoning", .leaf)]

theorem strict_float? (s : Schema) : s.Strict fun d => d.float?.isSome :=
  Schema.strict_scalar s (fun _ => rfl) fun _ => rfl

theorem analysisOfData?_strict :
    (Schema.record [("analysis_type", .leaf), ("format_requirements", .leaf),
      ("prompt", .leaf)]).Strict fun d => (analysisOfData? d).isSome := by
  refine Schema.Strict.record
    [fun o => (Data.required? AnalysisRequest.typeOfData? o).isSome,
      fun o => (Data.maybe? Data.string? o).isSome, fun o => (Data.maybe? Data.string? o).isSome] ?_ ?_
  · exact .cons (strict_ofName _ _) (.cons (strict_string? _).optional
      (.cons (strict_string? _).optional .nil))
  · intro d hd
    obtain ⟨a, ha⟩ := Option.isSome_iff_exists.mp hd
    obtain ⟨_, _, _, hgiven, htype, hformat, hprompt⟩ := analysisOfData?_iff.mp ha
    exact ⟨_, hgiven, by simp [htype, hformat, hprompt]⟩

theorem ofData?_strict : schema.Strict fun d => (ofData? d).isSome := by
  refine Schema.Strict.record
    [fun o => (Data.required? IntentKind.ofData? o).isSome,
      fun o => (Data.required? Data.float? o).isSome,
      fun o => (Data.maybe? ItemFilter.ofData? o).isSome,
      fun o => (Data.maybe? analysisOfData? o).isSome,
      fun o => (Data.withDefault? "" Data.string? o).isSome] ?_ ?_
  · exact .cons (strict_ofName _ _) (.cons (strict_float? _)
      (.cons ItemFilter.ofData?_strict.optional (.cons analysisOfData?_strict.optional
        (.cons (strict_string? _) .nil))))
  · intro d hd
    obtain ⟨draft, hdraft⟩ := Option.isSome_iff_exists.mp hd
    obtain ⟨_, _, _, _, _, hgiven, hkind, hconfidence, hfilter, hanalysis, hreasoning⟩ :=
      ofData?_iff.mp hdraft
    exact ⟨_, hgiven, by simp [hkind, hconfidence, hfilter, hanalysis, hreasoning]⟩

end DecisionDraft

/-! ## Replies -/

/-- Words that are blank or missing are those of the utterance. -/
theorem Reply.isBlankText_prompt {prompt : Option String} {utterance : String}
    (h : Text.isBlankText utterance = false) :
    Text.isBlankText ((Reply.unlessBlank prompt).getD utterance) = false := by
  cases hprompt : Reply.unlessBlank prompt with
  | none => exact h
  | some text => simpa using (Option.filter_eq_some_iff.mp hprompt).2

namespace Decision

/-- What a decision takes from the document of a reply, and what of it has been checked: its parts
are those of its kind, its confidence is the number of the document and lies between zero and one,
its filter is that of the document with the store's names of types and passes the check, and what to
analyze for is said if the utterance says anything. -/
structure Follows (c : Compiler) (utterance : String) (doc : Data) (d : Decision) : Prop where
  kind : (doc.field? DecisionDraft.fieldNames "intent_type").bind IntentKind.ofData? = some d.kind
  hasFilter : d.action.filter?.isSome = true ↔ d.kind = .newQuery ∨ d.kind = .combined
  hasRequest : d.action.request?.isSome = true ↔ d.kind = .cachedAnalysis ∨ d.kind = .combined
  confidence : (doc.field? DecisionDraft.fieldNames "confidence").bind Data.float? = some d.confidence
  least : (Binary64.zero false).le d.confidence = true
  most : d.confidence.le (.ofNat 1) = true
  filter : ∀ f, d.action.filter? = some f → c.check f = .ok () ∧
    ∃ given, (doc.field? DecisionDraft.fieldNames "filter").bind ItemFilter.ofData? = some given ∧
      given.Renames c.registry f
  prompt : ∀ request, d.action.request? = some request → Text.isBlankText utterance = false →
    Text.isBlankText request.prompt = false

variable {c : Compiler} {d : Decision} {utterance reply : String}

theorem ofDraft_follows {doc : Data} {draft : DecisionDraft}
    (hdraft : DecisionDraft.ofData? doc = some draft) (h : ofDraft c utterance draft = .ok d) :
    d.Follows c utterance doc := by
  obtain ⟨kind, confidence, filter, analysis, reasoning, hgiven, hkind, hnumber, hfilter, -, -⟩ :=
    DecisionDraft.ofData?_iff.mp hdraft
  obtain ⟨hconfidence, hsameKind, hsame, -, hparts, hcheck, hrequest⟩ := ofDraft_ok h
  -- the fields that are decoded in order are those that the names lead to
  have hfield : ∀ name ∈ DecisionDraft.fieldNames,
      [kind, confidence, filter, analysis, reasoning][DecisionDraft.fieldNames.idxOf name]? =
        some (doc.field? DecisionDraft.fieldNames name) :=
    fun name hname => Data.field?_of_fields? hgiven hname
  have hkindField := Option.some.inj (hfield "intent_type" (by decide))
  have hconfidenceField := Option.some.inj (hfield "confidence" (by decide))
  have hfilterField := Option.some.inj (hfield "filter" (by decide))
  simp only [isConfidence, Bool.and_eq_true] at hconfidence
  refine ⟨?_, d.action.filter?_isSome, d.action.request?_isSome, ?_, ?_, ?_, fun f hf => ?_,
    fun request hsome hblank => ?_⟩
  · rw [← hkindField, hsameKind]
    exact hkind
  · rw [← hconfidenceField, hsame]
    exact hnumber
  · rw [hsame]
    exact hconfidence.1
  · rw [hsame]
    exact hconfidence.2
  · refine ⟨hcheck f hf, ?_⟩
    obtain ⟨given, hsomeGiven, rfl⟩ := Option.map_eq_some_iff.mp (hparts.symm.trans hf)
    rw [hsomeGiven] at hfilter
    refine ⟨given, ?_, given.renames_withTypeNames c.registry⟩
    rw [← hfilterField]
    exact Data.maybe?_some hfilter
  · obtain ⟨_, -, rfl⟩ := Option.map_eq_some_iff.mp (hrequest.symm.trans hsome)
    exact Reply.isBlankText_prompt hblank

/-- A document that is no draft is no decision. -/
theorem ofReply_notADecision (c : Compiler) (utterance : String) {doc : Data}
    (h : Reply.document? reply = some doc) (hdoc : DecisionDraft.ofData? doc = none) :
    ofReply c utterance reply = .error .notADecision := by
  unfold Reply.document? at h
  cases hjson : Reply.jsonChars reply.toList with
  | error fault => simp [hjson, Except.toOption] at h
  | ok json =>
    rw [hjson] at h
    have hchars : Data.Json.ofChars? json = some doc := h
    simp only [ofReply, hjson, ok_bind, hchars, Option.bind_some, hdoc]
    rfl

/-- Every reply either fails, or gives a decision that follows its document. And then a reply whose
document has a member more, at any place, of a name that is not declared there, is no decision. -/
theorem ofReply_strict (c : Compiler) (utterance reply : String) :
    (∃ fault, ofReply c utterance reply = .error fault) ∨
    ∃ d doc, ofReply c utterance reply = .ok d ∧ Reply.document? reply = some doc ∧
      d.Follows c utterance doc ∧
      ∀ reply' doc', Reply.document? reply' = some doc' → DecisionDraft.schema.Adds doc doc' →
        ofReply c utterance reply' = .error .notADecision := by
  cases hreply : ofReply c utterance reply with
  | error fault => exact .inl ⟨fault, rfl⟩
  | ok d =>
    obtain ⟨json, doc, draft, hjson, hdoc, hdraft, hd⟩ := ofReply_ok hreply
    have hdocument : Reply.document? reply = some doc := by
      rw [Reply.document?, hjson]
      exact hdoc
    refine .inr ⟨d, doc, rfl, hdocument, ofDraft_follows hdraft hd, fun reply' doc' hreply' hadds => ?_⟩
    have hrefused := DecisionDraft.ofData?_strict doc doc' hadds (by simp [hdraft])
    exact ofReply_notADecision c utterance hreply' (by simpa using hrefused)

end Decision

/-- A record that is printed is the document of its text. -/
theorem Reply.document?_jsonText {members : List (String × Data)}
    (h : (Data.record members).isPlain = true) :
    Reply.document? (Data.record members).jsonText = some (.record members) := by
  have hspells := Data.Json.spells_chars h
  have htrim : Text.trimChars (Data.Json.chars (.record members)) =
      Data.Json.chars (.record members) := by
    rw [Data.Json.chars]
    apply Text.trimChars_eq_self
    · rintro _ ⟨⟩
      rfl
    · intro c hc
      rw [List.getLast?_append] at hc
      cases hc
      rfl
  have hjson : Reply.jsonChars (Data.Json.chars (.record members)) =
      .ok (Data.Json.chars (.record members)) := by
    rw [Reply.jsonChars, htrim]
    exact if_neg (by simp [Data.Json.chars, Reply.fence, Text.dropPrefix?])
  rw [Reply.document?, Data.jsonText, String.toList_ofList, hjson]
  exact Data.Json.ofChars?_spells hspells

/-- An analysis that is accepted, and refused with a tone that no analysis has. -/
theorem Decision.ofReply_strict_tone :
    let doc (more : List (String × Data)) : Data :=
      .record [("intent_type", .string "CACHED_ANALYSIS"), ("confidence", .integer 1),
        ("analysis", .record (("analysis_type", .string "summary") :: more))]
    (∃ d, ofReply .standard "sum up" (doc []).jsonText = .ok d) ∧
      ofReply .standard "sum up" (doc [("tone", .string "dry")]).jsonText = .error .notADecision := by
  intro doc
  have haccepted : (ofReply .standard "sum up" (doc []).jsonText).toOption.isSome = true := by
    decide +kernel
  rcases ofReply_strict .standard "sum up" (doc []).jsonText with ⟨fault, hfault⟩ |
    ⟨d, document, hd, hdocument, -, hrefused⟩
  · rw [hfault] at haccepted
    cases haccepted
  · obtain rfl : doc [] = document :=
      Option.some.inj ((Reply.document?_jsonText (by decide +kernel)).symm.trans hdocument)
    have htone : (DecisionDraft.schema.member "analysis").Adds
        (.record ([("analysis_type", .string "summary")] ++ []))
        (.record ([("analysis_type", .string "summary")] ++ [("tone", .string "dry")])) :=
      .key (.string "dry") (by decide)
    exact ⟨⟨d, hd⟩, hrefused _ _ (Reply.document?_jsonText (by decide +kernel))
      (@Schema.Adds.member _ [("intent_type", .string "CACHED_ANALYSIS"), ("confidence", .integer 1)]
        [] "analysis" _ _ htone)⟩

end WorkQuery
