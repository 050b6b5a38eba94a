import WorkQuery.Data.JsonPrinter
import WorkQuery.Intent.Reply
import WorkQuery.Proofs.Text
import WorkQuery.Proofs.Text.Blocks

/-!
# WorkQuery.Proofs.Intent.Fences

Replies in a code block.

* `Reply.opened`: a reply with an opening fence before it, and a text on the line of that fence.
* `Reply.jsonChars_closed`, `Reply.jsonChars_unclosed`: the JSON text of the block is that of the
  reply, whether a closing fence follows or not.
* `Decision.ofReply_fenced`: so the block makes the decision of the reply, or fails as it does.
-/

namespace WorkQuery
namespace Reply

variable {info reply before after : List Char}

/-- An opening fence with a text on its line, and the reply on the lines after it. -/
def opened (info reply : List Char) : List Char := fence ++ info ++ '\n' :: reply

theorem jsonChars_plain (h : ¬fence <+: Text.trimChars reply) :
    jsonChars reply = .ok (Text.trimChars reply) := by
  have hplain : (Text.dropPrefix? fence (Text.trimChars reply)).isSome = false := by
    rwa [Bool.eq_false_iff, ne_eq, Text.dropPrefix?_isSome_iff]
  rw [jsonChars, hplain]
  rfl

/-- The JSON text of a block that is trimmed already. -/
theorem jsonChars_opened {text : List Char} (hinfo : '\n' ∉ info)
    (htext : Text.trimChars text = opened info reply) :
    jsonChars text =
      .ok (Text.trimChars (dropClosingFence (Text.dropEndWhile Text.isBlank reply))) := by
  have hfence : (Text.dropPrefix? fence (opened info reply)).isSome = true := by
    rw [Text.dropPrefix?_isSome_iff, opened, List.append_assoc]
    exact List.prefix_append _ _
  have hline : (opened info reply).dropWhile (· != '\n') = '\n' :: reply := by
    rw [opened, List.dropWhile_append_of_pos]
    · rfl
    · intro c hc
      rw [bne_iff_ne]
      rintro rfl
      rcases List.mem_append.mp hc with hc | hc
      · exact absurd hc (by decide)
      · exact hinfo hc
  rw [jsonChars, htext, if_pos hfence, hline]

theorem dropClosingFence_closed (cs : List Char) : dropClosingFence (cs ++ fence) = cs := by
  have hprefix : Text.dropPrefix? fence (cs ++ fence).reverse = some cs.reverse := by
    rw [Text.dropPrefix?_eq_some_iff, List.reverse_append]
    rfl
  rw [dropClosingFence, hprefix]
  exact List.reverse_reverse cs

theorem dropClosingFence_unclosed {cs : List Char} (h : ¬fence <:+ cs) : dropClosingFence cs = cs := by
  have hprefix : Text.dropPrefix? fence cs.reverse = none := by
    rw [Option.eq_none_iff_forall_ne_some]
    intro rest hrest
    have hreversed := congrArg List.reverse (Text.dropPrefix?_eq_some_iff.mp hrest)
    rw [List.reverse_reverse, List.reverse_append] at hreversed
    exact h ⟨rest.reverse, hreversed.symm⟩
  rw [dropClosingFence, hprefix]

/-- A text that ends in a fence still does when it is trimmed. -/
theorem trimChars_closed (cs : List Char) : fence <:+ Text.trimChars (cs ++ fence) := by
  have hfence : Text.dropEndWhile Text.isBlank fence = fence := by decide
  have hkept : fence.dropWhile Text.isBlank = fence := by decide
  rw [Text.trimChars, Text.trimWhere, List.dropWhile_append]
  split
  · rw [hkept, hfence]
  · rw [Text.dropEndWhile_append (by rw [hfence]; decide), hfence]
    exact List.suffix_append _ _

/-- The block begins with a fence and ends with a text that is not blank, so only what follows that
text is trimmed. -/
theorem trimChars_opened (info : List Char) (hbefore : before.all Text.isBlank = true)
    (hafter : after.all Text.isBlank = true) (hreply : Text.dropEndWhile Text.isBlank reply ≠ []) :
    Text.trimChars (before ++ opened info reply ++ after) =
      opened info (Text.dropEndWhile Text.isBlank reply) := by
  have hsplit : opened info reply = (fence ++ info ++ ['\n']) ++ reply := by simp [opened]
  have hstart : (opened info reply).dropWhile Text.isBlank = opened info reply := rfl
  rw [Text.trimChars_surrounded hbefore hafter, Text.trimChars, Text.trimWhere, hstart, hsplit,
    Text.dropEndWhile_append hreply]
  simp [opened]

theorem jsonChars_closed (hinfo : '\n' ∉ info) (hbefore : before.all Text.isBlank = true)
    (hafter : after.all Text.isBlank = true) :
    jsonChars (before ++ opened info (reply ++ '\n' :: fence) ++ after) =
      .ok (Text.trimChars reply) := by
  have hfence : Text.dropEndWhile Text.isBlank ('\n' :: fence) = '\n' :: fence := by decide
  have hend : Text.dropEndWhile Text.isBlank (reply ++ '\n' :: fence) = reply ++ '\n' :: fence := by
    rw [Text.dropEndWhile_append (by rw [hfence]; decide), hfence]
  have hclosed : dropClosingFence (reply ++ '\n' :: fence) = reply ++ ['\n'] := by
    rw [← List.singleton_append, ← List.append_assoc, dropClosingFence_closed]
  have hblock := trimChars_opened info hbefore hafter (by rw [hend]; simp)
  rw [hend] at hblock
  rw [jsonChars_opened hinfo hblock, hend, hclosed]
  exact congrArg Except.ok (Text.trimChars_append rfl)

theorem jsonChars_unclosed (hinfo : '\n' ∉ info) (hbefore : before.all Text.isBlank = true)
    (hafter : after.all Text.isBlank = true) (hblank : Text.trimChars reply ≠ [])
    (hend : ¬fence <:+ Text.trimChars reply) :
    jsonChars (before ++ opened info reply ++ after) = .ok (Text.trimChars reply) := by
  have hreply : Text.dropEndWhile Text.isBlank reply ≠ [] := by
    intro hnone
    rw [← Text.trimChars_dropEndWhile, hnone] at hblank
    exact hblank rfl
  have hagain : Text.dropEndWhile Text.isBlank (Text.dropEndWhile Text.isBlank reply) =
      Text.dropEndWhile Text.isBlank reply := List.rdropWhile_idempotent _ _
  have hunclosed : ¬fence <:+ Text.dropEndWhile Text.isBlank reply := by
    rintro ⟨cs, hcs⟩
    rw [← Text.trimChars_dropEndWhile, ← hcs] at hend
    exact hend (trimChars_closed cs)
  rw [jsonChars_opened hinfo (trimChars_opened info hbefore hafter hreply), hagain,
    dropClosingFence_unclosed hunclosed, Text.trimChars_dropEndWhile]

end Reply

namespace Decision

/-- A reply that is no code block, put into one: after blanks an opening fence with any text on its
line, the reply, and on a line of its own a closing fence with blanks after it. That makes the same
decision or fails in the same way, and so it does without the closing fence, if the reply is not blank
and does not end in a fence itself. -/
theorem ofReply_fenced (c : Compiler) (utterance reply info before after : String)
    (hplain : ¬Reply.fence <+: (Text.trim reply).toList) (hinfo : '\n' ∉ info.toList)
    (hbefore : Text.isBlankText before = true) (hafter : Text.isBlankText after = true) :
    let fence := String.ofList Reply.fence
    let opened := before ++ fence ++ info ++ "\n" ++ reply
    ofReply c utterance (opened ++ "\n" ++ fence ++ after) = ofReply c utterance reply ∧
    (Text.isBlankText reply = false → ¬Reply.fence <:+ (Text.trim reply).toList →
      ofReply c utterance (opened ++ after) = ofReply c utterance reply) := by
  intro fence opened
  rw [Text.trim, String.toList_ofList] at hplain ⊢
  have hreply := Reply.jsonChars_plain hplain
  refine ⟨?_, fun hblank hend => ?_⟩
  · have htext : (opened ++ "\n" ++ fence ++ after).toList =
        before.toList ++ Reply.opened info.toList (reply.toList ++ '\n' :: Reply.fence)
          ++ after.toList := by
      simp [opened, fence, Reply.opened]
    rw [ofReply, ofReply, hreply, htext, Reply.jsonChars_closed hinfo hbefore hafter]
  · have htext : (opened ++ after).toList =
        before.toList ++ Reply.opened info.toList reply.toList ++ after.toList := by
      simp [opened, fence, Reply.opened]
    have hkept : Text.trimChars reply.toList ≠ [] := by
      rwa [ne_eq, ← Text.isBlankText_iff, Bool.not_eq_true]
    rw [ofReply, ofReply, hreply, htext, Reply.jsonChars_unclosed hinfo hbefore hafter hkept hend]

/-- A decision in a block of JSON, and the same block without its closing fence. -/
theorem ofReply_fenced_summary :
    let reply := (Data.record [("intent_type", .string "CACHED_ANALYSIS"), ("confidence", .integer 1),
      ("analysis", .record [("analysis_type", .string "summary")])]).jsonText
    let fence := String.ofList Reply.fence
    let opened := " \n" ++ fence ++ "json" ++ "\n" ++ reply
    (¬Reply.fence <+: (Text.trim reply).toList ∧ '\n' ∉ "json".toList ∧
      Text.isBlankText " \n" = true ∧ Text.isBlankText "\t\n" = true ∧
      Text.isBlankText reply = false ∧ ¬Reply.fence <:+ (Text.trim reply).toList) ∧
    (ofReply .standard "sum up" reply).toOption.isSome = true ∧
    ofReply .standard "sum up" (opened ++ "\n" ++ fence ++ "\t\n") = ofReply .standard "sum up" reply ∧
    ofReply .standard "sum up" (opened ++ "\t\n") = ofReply .standard "sum up" reply := by
  intro reply fence opened
  have hplain : ¬Reply.fence <+: (Text.trim reply).toList := by decide +kernel
  have hinfo : '\n' ∉ "json".toList := by decide
  have hbefore : Text.isBlankText " \n" = true := by decide
  have hafter : Text.isBlankText "\t\n" = true := by decide
  have hblank : Text.isBlankText reply = false := by decide +kernel
  have hend : ¬Reply.fence <:+ (Text.trim reply).toList := by decide +kernel
  have haccepted : (ofReply .standard "sum up" reply).toOption.isSome = true := by decide +kernel
  obtain ⟨hclosed, hunclosed⟩ :=
    ofReply_fenced .standard "sum up" reply "json" " \n" "\t\n" hplain hinfo hbefore hafter
  exact ⟨⟨hplain, hinfo, hbefore, hafter, hblank, hend⟩, haccepted, hclosed, hunclosed hblank hend⟩

/-- A block that is begun and holds nothing is refused as such, where an empty reply is no decision. -/
example : ofReply .standard "sum up" (String.ofList Reply.fence ++ "json\n") = .error .emptyCodeBlock ∧
    ofReply .standard "sum up" "" = .error .notADecision := by
  constructor <;> rfl

end Decision
end WorkQuery
