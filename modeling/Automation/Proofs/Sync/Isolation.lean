import Automation.Proofs.Sync.Agreement
import Mathlib.Data.List.Infix

/-!
# Messages of different tenants and conversations

The key under which a message is sent at most once is a text, made of the id of its tenant, the
text of its conversation and its key in a plan, with colons in between. It tells messages apart as
long as no tenant id and no conversation goes on from another one behind a colon, and then no sync
ever passes over a message, waits for it or reports on it because of a message that is not the
same. Where a tenant id does go on from another one, their messages can share a key.

## Main definitions

* `MessageId.Same` — the same message, conversations compared by their texts.
* `Text.Apart` — neither of two texts goes on from the other behind a colon.
* `Workload.Isolated` — what one message owes to another in a run: nothing.

## Main statements

* `MessageId.same_of_messageKey_eq` — of texts that are apart, equal keys are made of equal parts.
* `apart_iff_messageKey_ne` — two tenants never share a key exactly when their ids are apart.
* `Workload.isolated_run` — messages with texts that are apart are isolated in every run.
-/

namespace Automation

namespace Text

/-- A text goes on from another one behind a colon. -/
def Continues (text longer : String) : Prop := text.toList ++ [':'] <+: longer.toList

instance (text longer : String) : Decidable (Continues text longer) :=
  inferInstanceAs (Decidable (_ <+: _))

/-- Neither of two texts goes on from the other behind a colon. -/
def Apart (s t : String) : Prop := ¬ Continues s t ∧ ¬ Continues t s

instance (s t : String) : Decidable (Apart s t) := inferInstanceAs (Decidable (_ ∧ _))

theorem continues_iff {text longer : String} :
    Continues text longer ↔ ∃ rest, longer = text ++ ":" ++ rest := by
  simp only [Continues, List.IsPrefix, ← String.toList_inj, String.toList_append]
  constructor
  · rintro ⟨rest, hrest⟩
    exact ⟨String.ofList rest, by simpa using hrest.symm⟩
  · rintro ⟨rest, hrest⟩
    exact ⟨rest.toList, by simpa using hrest.symm⟩

/-- Texts without colons are apart. -/
theorem apart_of_not_mem {s t : String} (hs : ':' ∉ s.toList) (ht : ':' ∉ t.toList) : Apart s t :=
  ⟨fun h => ht (h.subset (by simp)), fun h => hs (h.subset (by simp))⟩

/-- A text that two others begin with, up to a colon, is cut in the same place in both, unless one
of the two goes on from the other. -/
theorem eq_of_colon_eq {s t u v : String} (h : s ++ ":" ++ u = t ++ ":" ++ v) (hst : Apart s t) :
    s = t ∧ u = v := by
  have h : s.toList ++ ':' :: u.toList = t.toList ++ ':' :: v.toList := by
    simpa [← String.toList_inj] using h
  rcases List.append_eq_append_iff.mp h with ⟨more, ht, hu⟩ | ⟨more, hs, hv⟩
  · cases more with
    | nil => simp_all [← String.toList_inj]
    | cons c more =>
      -- the longer text has a colon where the shorter one ends
      obtain ⟨rfl, -⟩ : ':' = c ∧ _ := by simpa using hu
      exact absurd ⟨more, by simp [ht]⟩ hst.1
  · cases more with
    | nil => simp_all [← String.toList_inj]
    | cons c more =>
      obtain ⟨rfl, -⟩ : ':' = c ∧ _ := by simpa using hv
      exact absurd ⟨more, by simp [hs]⟩ hst.2

end Text

open Text

/-- The same message: of the same tenant, with the same key in a plan, and of conversations with
the same text. -/
def MessageId.Same (id other : MessageId) : Prop :=
  id.tenantId = other.tenantId ∧ id.conversation.plainText = other.conversation.plainText ∧
    id.key = other.key

instance (id other : MessageId) : Decidable (id.Same other) :=
  inferInstanceAs (Decidable (_ ∧ _))

theorem MessageId.Same.messageKey_eq {id other : MessageId} (h : id.Same other) :
    id.messageKey = other.messageKey := by
  obtain ⟨htenant, hconversation, hkey⟩ := h
  simp only [MessageId.messageKey, Automation.messageKey, htenant, hconversation, hkey]

/-- Of texts that are apart, equal keys are made of equal parts. -/
theorem MessageId.same_of_messageKey_eq {id other : MessageId}
    (htenants : Apart id.tenantId other.tenantId)
    (hconversations : Apart id.conversation.plainText other.conversation.plainText)
    (h : id.messageKey = other.messageKey) : id.Same other := by
  have hparts : id.tenantId ++ ":" ++ (id.conversation.plainText ++ ":" ++ id.key) =
      other.tenantId ++ ":" ++ (other.conversation.plainText ++ ":" ++ other.key) := by
    simpa [MessageId.messageKey, Automation.messageKey, String.append_assoc] using h
  obtain ⟨htenant, hrest⟩ := eq_of_colon_eq hparts htenants
  exact ⟨htenant, eq_of_colon_eq hrest hconversations⟩

/-- Two tenants never share a key exactly when their ids are apart. -/
theorem apart_iff_messageKey_ne {tenant other : String} (hne : tenant ≠ other) :
    Apart tenant other ↔ ∀ conversation conversation' key key',
      messageKey tenant conversation key ≠ messageKey other conversation' key' := by
  -- what one id has more than the other can stand in a conversation and a key
  have hshared : ∀ {tenant other : String}, Continues tenant other →
      ∃ conversation key conversation' key',
        messageKey tenant conversation key = messageKey other conversation' key' := by
    intro tenant other h
    obtain ⟨rest, rfl⟩ := continues_iff.mp h
    exact ⟨.str rest, ":", .str "", "", by simp [messageKey, Json.plainText, String.append_assoc]⟩
  constructor
  · intro hapart conversation conversation' key key' h
    have hparts : tenant ++ ":" ++ (conversation.plainText ++ ":" ++ key) =
        other ++ ":" ++ (conversation'.plainText ++ ":" ++ key') := by
      simpa [messageKey, String.append_assoc] using h
    exact hne (eq_of_colon_eq hparts hapart).1
  · intro h
    refine ⟨fun hcontinues => ?_, fun hcontinues => ?_⟩
    · obtain ⟨c, k, c', k', heq⟩ := hshared hcontinues
      exact h c c' k k' heq
    · obtain ⟨c, k, c', k', heq⟩ := hshared hcontinues
      exact h c' c k' k heq.symm

namespace Workload

/-- In a run, one message is never passed over, waited for or reported on because of another. -/
structure Isolated (setup : EngineSetup) (steps : List Step) (last : Workload)
    (id other : MessageId) : Prop where
  keys_ne : id.messageKey ≠ other.messageKey
  /-- A message counts as sent exactly because some send under its key has started since the cache
  was last cleared, and is under way or was delivered. This is no send of the other message. -/
  processed : last.engine.isProcessed id.tenantId id.conversation id.key = true ↔
    ∃ a, a.messageKey = id.messageKey ∧ ¬ a.message.Same other ∧
      (∃ s ∈ sinceClear steps, s.Starts a) ∧
      (Sends last.attends? a ∨ ∃ s ∈ steps, s.Delivers a)
  /-- Whoever sends a message or waits for it takes part in a flight with one sender, and what this
  one sends is not the other message. -/
  flown : ∀ i a, Took steps i a → a.message.Same id →
    (∃! j, ∃ b, Took steps j b ∧ b.part = .sender ∧ b.flight = a.flight) ∧
      ∀ j b, Took steps j b → b.part = .sender → b.flight = a.flight → ¬ b.message.Same other
  /-- Whoever is done with a message has its result settled by how that flight has landed: as its
  sender was cancelled, or as the retried call of its sender has ended. -/
  reported : ∀ i a, a.message.Same id → ∀ s ∈ steps, s.Leaves i a → s.move = .cancel i ∨
    ∃ (j : Nat) (b : Attendance) (t : Step) (landing : Landing), t ∈ steps ∧ t.Leaves j b ∧
      b.part = .sender ∧ b.flight = a.flight ∧ ¬ b.message.Same other ∧
      s.after.result? i = some (landing.settle a.part a.key a.sync.result) ∧
      ((t.move = .cancel j ∧ landing = .failed Engine.cancelledMessage) ∨
        ∃ answer value retrying failure?, t.move = .resume j answer ∧
          t.before.task? j = some (.sending b.sync b.key value b.flight retrying) ∧
          (retrying.step setup.retry answer).1 = .ended failure? ∧
          landing = .ofFailure? failure?)

variable {setup : EngineSetup} {moves : List Move} {id other : MessageId}

/-- A sync that leaves a flight has done so in one way, once. -/
theorem exits_eq_of_leaves {s : Step} {i : Nat} {a : Attendance}
    (hs : s ∈ initial.steps setup moves) (hleaves : s.Leaves i a) :
    Took (initial.steps setup moves) i a ∧ exits (initial.steps setup moves) i a = [s] := by
  have hcharted := @charted_run setup moves
  have htook := hcharted.known_before s hs i a hleaves.1
  have hmem : s ∈ exits (initial.steps setup moves) i a :=
    List.mem_filter.mpr ⟨hs, decide_eq_true hleaves⟩
  refine ⟨htook, ?_⟩
  rcases hcharted.course i a htook with ⟨-, hnone⟩ | ⟨-, t, hexits⟩
  · simp [hnone] at hmem
  · rw [hexits, List.mem_singleton] at hmem
    rw [hexits, hmem]

/-- Messages of tenants and conversations whose texts are apart are isolated in every run. -/
theorem isolated_run (setup : EngineSetup) (moves : List Move) (hne : ¬ id.Same other)
    (htenants : Text.Apart id.tenantId other.tenantId)
    (hconversations : Text.Apart id.conversation.plainText other.conversation.plainText) :
    Isolated setup (initial.steps setup moves) (initial.run setup moves) id other := by
  have hkeys : id.messageKey ≠ other.messageKey := fun h =>
    hne (MessageId.same_of_messageKey_eq htenants hconversations h)
  have hcharted := @charted_run setup moves
  -- what is sent under the key of one message is not the other one
  have hnot : ∀ a : Attendance, a.messageKey = id.messageKey → ¬ a.message.Same other :=
    fun a ha hsame => hkeys (ha.symm.trans hsame.messageKey_eq)
  have hown : ∀ a : Attendance, a.message.Same id → a.messageKey = id.messageKey :=
    fun a hsame => hsame.messageKey_eq
  refine ⟨hkeys, ?_, ?_, ?_⟩
  · have hledger := (@ledger_run setup moves).mem_processed id.messageKey
    simp only [Engine.isProcessed, List.contains_iff_mem]
    refine hledger.trans (exists_congr fun a => ?_)
    constructor
    · rintro ⟨hkey, hrest⟩
      exact ⟨hkey, hnot a hkey, hrest⟩
    · rintro ⟨hkey, -, hrest⟩
      exact ⟨hkey, hrest⟩
  · intro i a ha hsame
    obtain ⟨j, b, hb, hsender, hflight⟩ := hcharted.exists_sender i a ha
    refine ⟨⟨j, ⟨b, hb, hsender, hflight⟩, ?_⟩, fun k c hc _ hflight' => ?_⟩
    · rintro k ⟨c, hc, hsender', hflight'⟩
      exact hcharted.one_sender k j c b hc hb hsender' hsender (hflight'.trans hflight.symm)
    · exact hnot c ((hcharted.same_key k i c a hc ha hflight').trans (hown a hsame))
  · intro i a hsame s hs hleaves
    obtain ⟨ha, hexits⟩ := exits_eq_of_leaves hs hleaves
    cases parting_of_exits hexits with
    | cancelled moved landed => exact .inl moved
    | settled answer landing moved landed result decided =>
      right
      have hlanding := landing?_of_mem hs landed
      obtain ⟨j, b, hb, hsender, hflight⟩ := hcharted.exists_sender i a ha
      have hkey := (hcharted.same_key j i b a hb ha hflight).trans (hown a hsame)
      rcases sender_decides hb hsender with ⟨hnone, -⟩ | ⟨t, hexits', hends⟩
      · rw [hflight, hlanding] at hnone
        cases hnone
      obtain ⟨ht, hleaves'⟩ := mem_of_exits hexits'
      refine ⟨j, b, t, landing, ht, hleaves', hsender, hflight, hnot b hkey, result, ?_⟩
      rw [hflight, hlanding] at hends
      rcases hends with ⟨hcancel, hlands⟩ | ⟨answer, value, retrying, failure?, hresume, htask,
        hcall, hlands⟩
      · exact .inl ⟨hcancel, Option.some.inj hlands⟩
      · exact .inr ⟨answer, value, retrying, failure?, hresume, hflight ▸ htask, hcall,
          Option.some.inj hlands⟩

/-- A plan that sends one message under a key. -/
def greeting (key : String) : ExecutionPlan := ⟨[(key, ⟨.message, .str "Hi!"⟩)], .none, [], []⟩

/-- Two syncs, one after the other, of which each is answered by its tenant and by the platform. -/
def greetings (first second : MessageId) : List Move := [
  .start (.sync first.tenantId first.conversation (greeting first.key)),
  .resume 0 (.found ⟨first.tenantId, "", default, []⟩), .resume 0 .done,
  .start (.sync second.tenantId second.conversation (greeting second.key)),
  .resume 1 (.found ⟨second.tenantId, "", default, []⟩), .resume 1 .done]

/-- Two conversations of a tenant get messages of the same key in a plan. -/
theorem isolated_run_greetings :
    let first : MessageId := ⟨"acme", .ofInt 1, "hello"⟩
    let second : MessageId := ⟨"acme", .ofInt 2, "hello"⟩
    let setup : EngineSetup := ⟨.standard, fun _ => none⟩
    Isolated setup (initial.steps setup (greetings first second))
      (initial.run setup (greetings first second)) second first :=
  isolated_run _ _ (by decide) (by decide) (by decide)

/-- The id of one tenant goes on from that of another, and the second of two messages is passed
over although nothing was ever sent to its conversation. -/
theorem shared_key_greetings :
    let first : MessageId := ⟨"a", .ofInt 1, "2:x"⟩
    let second : MessageId := ⟨"a:1", .ofInt 2, "x"⟩
    ¬ first.Same second ∧ first.messageKey = second.messageKey ∧
      (initial.run ⟨.standard, fun _ => none⟩ (greetings first second)).tasks[1]? =
        some (.reached (.finished (.ok (.synced ⟨0, 0, 0, []⟩)))) := by
  refine ⟨by decide, by decide, rfl⟩

end Workload

end Automation
