import FrametimeCfg.Domain.Progress
import FrametimeCfg.Domain.State

/-!
# What survives a write and a read

The checkpoints run in different processes, so each of them sees the records
that the decoders make of what an earlier one wrote.  A record that a decoder
made keeps no entry of its rest under the name of a field, and such a record
(`StableTransaction`, `StableState`, `StableProgress`) keeps what the
transaction rests on: its identifier, its stage, and the completed steps of
the catalog.
-/

namespace FrametimeCfg.Verified.Reload

open FrametimeCfg.Domain
open FrametimeCfg.Lib.Checks
open FrametimeCfg.Lib.OrderedMap

/-! ## The transaction -/

/-- A transaction as a decoder makes it: the rest names no field, and the
stage is what its text reads as. -/
structure StableTransaction (t : RebootTransaction) : Prop where
  rest : ∀ k ∈ RebootTransaction.knownKeys, t.unknown[k]? = none
  stage : RebootStage.parse t.stage.asStr = t.stage

/-- A stage of the program is what its text reads as. -/
theorem parse_asStr {stage : RebootStage} (h : ∀ value, stage ≠ .unknown value) :
    RebootStage.parse stage.asStr = stage := by
  cases stage with
  | unknown value => exact absurd rfl (h value)
  | _ => decide +kernel

/-- A stage that is not recognised keeps its text. -/
private theorem text_of_unknown {text value : String}
    (h : RebootStage.parse text = .unknown value) : text = value := by
  unfold RebootStage.parse at h
  split_ifs at h
  injection h

theorem parse_asStr_parse (text : String) :
    RebootStage.parse (RebootStage.parse text).asStr = RebootStage.parse text := by
  cases h : RebootStage.parse text with
  | unknown value =>
      have htext : text = value := text_of_unknown h
      subst htext
      exact h
  | _ => decide +kernel

/-- The stage that a missing text stands for is no stage of the program. -/
theorem parse_missing : RebootStage.parse "missing" = .unknown "missing" := by
  decide +kernel

theorem stableTransaction_of_decode {value : Value} {t : RebootTransaction}
    (h : RebootTransaction.decode value = .ok t) : StableTransaction t := by
  unfold RebootTransaction.decode at h
  split at h
  · cases h
  · rename_i fields hfields
    obtain rfl := Except.ok.inj h
    refine ⟨?_, ?_⟩
    · intro k hk
      show (BTreeMap.without fields RebootTransaction.knownKeys)[k]? = none
      rw [BTreeMap.get_without, if_pos hk]
    · show RebootStage.parse (RebootStage.asStr _) = _
      cases tolerantString fields["stage"]? with
      | none => exact parse_missing
      | some text => exact parse_asStr_parse text

/-- A stable transaction stays stable at every stage of the program. -/
theorem StableTransaction.withStage {t t' : RebootTransaction} (h : StableTransaction t)
    (hunknown : t'.unknown = t.unknown)
    (hstage : RebootStage.parse t'.stage.asStr = t'.stage) : StableTransaction t' := by
  refine ⟨?_, hstage⟩
  intro k hk
  rw [hunknown]
  exact h.rest k hk

/-- **The identifier and the stage survive.** -/
theorem decode_encode_transaction {t : RebootTransaction} (h : StableTransaction t) :
    ∃ t', RebootTransaction.decode t.encode = .ok t' ∧
      t'.transactionId = t.transactionId ∧ t'.stage = t.stage := by
  have hnodup : (t.entries.map Prod.fst).Nodup := by
    simp [RebootTransaction.entries]
  obtain ⟨fields, hfields, hget⟩ := Value.asObject_ofRecord hnodup t.unknown
  have hid : fields["transactionId"]? = some ((t.transactionId.map fun id =>
      Value.string id.text).getD .null) := by
    rw [hget, h.rest _ (by simp [RebootTransaction.knownKeys])]
    simp [Value.entry, RebootTransaction.entries, List.lookup_cons, List.lookup_nil]
  have hstage : fields["stage"]? = some (.string t.stage.asStr) := by
    rw [hget, h.rest _ (by simp [RebootTransaction.knownKeys])]
    simp [Value.entry, RebootTransaction.entries, List.lookup_cons, List.lookup_nil]
  have hobject : t.encode.asObject = some fields := hfields
  unfold RebootTransaction.decode
  rw [hobject]
  refine ⟨_, rfl, ?_, ?_⟩
  · show (tolerantString fields["transactionId"]?).bind _ = _
    rw [hid]
    cases ht : t.transactionId with
    | none => rfl
    | some id =>
        show (TransactionId.parse id.text).toOption = some id
        rw [TransactionId.parse_text]
        rfl
  · show ((tolerantString fields["stage"]?).map RebootStage.parse).getD _ = _
    rw [hstage]
    exact h.stage

/-! ## The state -/

/-- A state as a decoder makes it: its transaction is stable, and its rest
holds no other one. -/
structure StableState (s : State) : Prop where
  transaction : ∀ t, s.activeRebootTransaction = some t →
    StableTransaction t ∧ s.unknown["activeRebootTransaction"]? = none
  rest : typedPreservingMalformed RebootTransaction.decode
    s.unknown["activeRebootTransaction"]? = none

/-- The fields of `State::deserialize` that the transaction comes from. -/
theorem decode_state_eq_ok {value : Value} {s : State} (h : State.decode value = .ok s) :
    ∃ fields, value.asObject = some fields ∧
      s.activeRebootTransaction = typedPreservingMalformed RebootTransaction.decode
        fields["activeRebootTransaction"]? ∧
      s.unknown["activeRebootTransaction"]? =
        if s.activeRebootTransaction.isSome then none
        else fields["activeRebootTransaction"]? := by
  unfold State.decode at h
  obtain ⟨fields, hfields, hreturn⟩ := bind_eq_ok.mp h
  refine ⟨fields, okOr_eq_ok.mp hfields, ?_⟩
  obtain rfl := Except.ok.inj hreturn
  refine ⟨rfl, ?_⟩
  show (BTreeMap.without fields _)["activeRebootTransaction"]? = _
  rw [BTreeMap.get_without]
  show (if _ then _ else _) = if (typedPreservingMalformed RebootTransaction.decode
    fields["activeRebootTransaction"]?).isSome then none else _
  cases typedPreservingMalformed RebootTransaction.decode
      fields["activeRebootTransaction"]? with
  | none =>
      rw [if_neg]
      · rfl
      · cases (typedPreservingMalformed FinalBenchmarkReceipt.decode
          fields["finalBenchmark"]?) <;> simp [State.removedKeys]
  | some t =>
      rw [if_pos]
      · rfl
      · simp

theorem stableState_of_decode {value : Value} {s : State}
    (h : State.decode value = .ok s) : StableState s := by
  obtain ⟨fields, -, hactive, hrest⟩ := decode_state_eq_ok h
  refine ⟨?_, ?_⟩
  · intro t ht
    have hsome : s.activeRebootTransaction.isSome = true := by rw [ht]; rfl
    rw [if_pos hsome] at hrest
    refine ⟨?_, hrest⟩
    rw [ht, typedPreservingMalformed] at hactive
    obtain ⟨value', -, hdecode⟩ := Option.bind_eq_some_iff.mp hactive.symm
    cases hd : RebootTransaction.decode value' with
    | ok t' =>
        rw [hd] at hdecode
        have hsame : t' = t := Option.some.inj hdecode
        rw [← hsame]
        exact stableTransaction_of_decode hd
    | error e =>
        rw [hd] at hdecode
        cases hdecode
  · cases hs : s.activeRebootTransaction with
    | some t =>
        rw [hs, Option.isSome_some, if_pos rfl] at hrest
        rw [hrest]
        rfl
    | none =>
        rw [hs, Option.isSome_none, if_neg (by simp)] at hrest
        rw [hrest, ← hactive, hs]

/-- The state of a fresh installation. -/
theorem stableState_default : StableState {} :=
  { transaction := by
      intro t ht
      cases ht
    rest := by
      have hempty : (∅ : BTreeMap Value)["activeRebootTransaction"]? = none :=
        Std.ExtTreeMap.getElem?_empty
      show typedPreservingMalformed _ (∅ : BTreeMap Value)["activeRebootTransaction"]? = _
      rw [hempty]
      rfl }

private theorem encode_state_entry (s : State) :
    ∃ fields, s.encode.asObject = some fields ∧
      fields["activeRebootTransaction"]? =
        (s.unknown["activeRebootTransaction"]?).or
          (s.activeRebootTransaction.map RebootTransaction.encode) := by
  have hnodup : (s.entries.map Prod.fst).Nodup := by simp [State.entries]
  obtain ⟨fields, hfields, hget⟩ := Value.asObject_ofRecord hnodup s.unknown
  refine ⟨fields, hfields, ?_⟩
  rw [hget]
  simp [Value.entry, State.entries, List.lookup_cons, List.lookup_nil]

/-- **A reloaded state** has the transaction it had, by its identifier and its
stage, or has none, as before. -/
theorem reload_state {s s' : State} (hstable : StableState s)
    (h : State.decode s.encode = .ok s') :
    StableState s' ∧
      (s.activeRebootTransaction = none → s'.activeRebootTransaction = none) ∧
      ∀ t, s.activeRebootTransaction = some t →
        ∃ t', s'.activeRebootTransaction = some t' ∧
          t'.transactionId = t.transactionId ∧ t'.stage = t.stage := by
  refine ⟨stableState_of_decode h, ?_⟩
  obtain ⟨fields, hfields, hactive, -⟩ := decode_state_eq_ok h
  obtain ⟨fields', hfields', hentry⟩ := encode_state_entry s
  obtain rfl := Option.some.inj (hfields.symm.trans hfields')
  rw [hentry] at hactive
  refine ⟨?_, ?_⟩
  · intro hnone
    rw [hactive, hnone, Option.map_none, Option.or_none]
    exact hstable.rest
  · intro t ht
    obtain ⟨ht', hrest⟩ := hstable.transaction t ht
    obtain ⟨t', hdecode, hid, hstage⟩ := decode_encode_transaction ht'
    refine ⟨t', ?_, hid, hstage⟩
    rw [hactive, ht, hrest, Option.none_or]
    show (RebootTransaction.decode t.encode).toOption = some t'
    rw [hdecode]
    rfl

/-! ## The progress -/

/-- A progress as a decoder makes it: the rest names no field. -/
def StableProgress (p : Progress) : Prop :=
  ∀ k ∈ Progress.knownKeys, p.unknown[k]? = none

theorem stableProgress_of_decode {value : Value} {p : Progress}
    (h : Progress.decode value = .ok p) : StableProgress p := by
  unfold Progress.decode at h
  split at h
  · cases h
  · obtain rfl := Except.ok.inj h
    intro k hk
    show (BTreeMap.without _ Progress.knownKeys)[k]? = none
    rw [BTreeMap.get_without, if_pos hk]

/-- The progress of a fresh installation. -/
theorem stableProgress_default : StableProgress {} := by
  intro k _
  exact Std.ExtTreeMap.getElem?_empty

/-- The keys of the catalog are valid. -/
theorem validProgressKey_catalog :
    ∀ step ∈ stepCatalog, validProgressKey (Progress.keyFor step.id) = true := by
  decide +kernel

/-- **The completed steps of the catalog survive.** -/
theorem reload_progress {p p' : Progress} (hstable : StableProgress p)
    (h : Progress.decode p.encode = .ok p') :
    StableProgress p' ∧
      ∀ step ∈ stepCatalog, p'.isCompleted step.id = p.isCompleted step.id := by
  refine ⟨stableProgress_of_decode h, ?_⟩
  intro step hstep
  have hnodup : (p.entries.map Prod.fst).Nodup := by simp [Progress.entries]
  obtain ⟨fields, hfields, hget⟩ := Value.asObject_ofRecord hnodup p.unknown
  unfold Progress.decode Progress.encode at h
  rw [hfields] at h
  obtain rfl := Except.ok.inj h
  have hkeys : fields["completedSteps"]? = some (Progress.encodeKeys p.completedSteps) := by
    rw [hget, hstable _ (by simp [Progress.knownKeys])]
    simp [Value.entry, Progress.entries, List.lookup_cons, List.lookup_nil]
  have hvalid := validProgressKey_catalog step hstep
  show decide (Progress.keyFor step.id ∈ tolerantKeys fields["completedSteps"]?) =
    decide (Progress.keyFor step.id ∈ p.completedSteps)
  rw [hkeys, Progress.tolerantKeys_encodeKeys, decide_eq_decide, Finset.mem_filter]
  exact and_iff_left hvalid

end FrametimeCfg.Verified.Reload
