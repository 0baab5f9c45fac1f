import UptimeSync.Proofs.Action.Discipline
import UptimeSync.Proofs.Run.KeyedTable

namespace UptimeSync

namespace StoreWrite

/-- What a write says about the tag with an identifier: which one it is, or that there is none. A full
replacement says something about every identifier, and of two tags with one identifier the later one counts. -/
def tagged? (id : Int64) : StoreWrite → Option (Option Tag)
  | tags ts => some (ts.reverse.find? (·.id == id))
  | tag t => if t.id = id then some (some t) else none
  | dropTag dropped => if dropped = id then some none else none
  | _ => none

theorem id_of_tagged? {id : Int64} {write : StoreWrite} {t : Tag} (htagged : write.tagged? id = some (some t)) :
    t.id = id := by
  cases write with
  | tags ts =>
    have hfound : ts.reverse.find? (·.id == id) = some t := Option.some.inj htagged
    simpa using List.find?_some hfound
  | tag put =>
    rw [tagged?] at htagged
    split at htagged
    · next hid =>
      cases htagged
      exact hid
    · cases htagged
  | dropTag dropped =>
    rw [tagged?] at htagged
    split at htagged <;> cases htagged
  | _ => cases htagged

/-- A write changes what is found under an identifier just where it says something about it. -/
theorem find?_tags_apply (write : StoreWrite) (c : Store.Contents) (id : Int64) :
    (write.apply c).tags.find? id = (write.tagged? id).getD (c.tags.find? id) := by
  cases write with
  | tags ts =>
    change (ts.foldl (fun table t => table.insert t.id t) (∅ : IdMap Tag))[id]? = _
    rw [IdMap.getElem?_foldl_insert Tag.id]
    simp [tagged?]
  | tag t =>
    change (Received.value ((c.tags.getD ∅).insert t.id t)).find? id = _
    rw [Received.find?_insert, tagged?]
    split <;> rfl
  | dropTag dropped =>
    change (c.tags.map (·.erase dropped)).find? id = _
    rw [Received.find?_erase, tagged?]
    split <;> rfl
  | history write =>
    rw [apply, write.apply_frame]
    rfl
  | _ => rfl

/-- After a run of writes the last one that said something about an identifier still holds. -/
theorem find?_tags_applyAll (writes : List StoreWrite) (c : Store.Contents) (id : Int64) :
    (applyAll writes c).tags.find? id = (last? (tagged? id) writes).getD (c.tags.find? id) := by
  induction writes using List.reverseRecOn with
  | nil => rfl
  | append_singleton earlier write ih =>
    rw [applyAll_concat, find?_tags_apply, ih, last?_concat]
    cases write.tagged? id <;> rfl

end StoreWrite

namespace Action

theorem judge_deleteTag {id : Int64} {raw : Json} (haccepts : (deleteTag id).Accepts raw) :
    (deleteTag id).judge raw = .ok (.nothing, [.dropTag id]) := by
  obtain ⟨reply, hreply, hok, -⟩ := haccepts
  have happrove : (deleteTag id).approve reply = .ok reply.body := if_pos hok
  have hjudge : (deleteTag id).judge raw =
      (deleteTag id).reply raw >>= (deleteTag id).approve >>= (deleteTag id).settle := rfl
  rw [hjudge, hreply]
  change ((deleteTag id).approve reply >>= (deleteTag id).settle) = _
  rw [happrove]
  rfl

/-- Deleting a tag that an open store does not have changes nothing, and fails only if the server does not
confirm it. -/
theorem deleteTag_of_absent {σ : Type} {id : Int64} {c : Store.Contents} (habsent : c.tags.find? id = none)
    (e : Emitter σ) (x : σ) :
    let run := (deleteTag id).program.carriedOut e ⟨⟨some c⟩, x, []⟩
    run.2.store = ⟨some c⟩ ∧
    ∀ raw, .emitted "deleteTag" [.ofInt64 id] (.ok raw) ∈ run.2.steps → (deleteTag id).Accepts raw →
      run.1.isOk = true := by
  intro run
  have hending : (deleteTag id).Ending ⟨some c⟩ run.1 run.2.store run.2.steps :=
    (deleteTag id).ends e ⟨some c⟩ x
  constructor
  · cases hresult : run.1 with
    | error err =>
      rw [hresult] at hending
      exact hending.store_of_error
    | ok answer =>
      rw [hresult] at hending
      have herased : run.2.store = ⟨some { c with tags := c.tags.map (·.erase id) }⟩ := hending.store_of_ok
      rw [herased, Received.map_erase_of_absent habsent]
  · intro raw hemitted haccepts
    have hjudge := judge_deleteTag haccepts
    generalize run.1 = result, run.2.store = left, run.2.steps = steps at hending hemitted ⊢
    cases hending with
    | rejected | unconnected | unsent | unannounced => simp at hemitted
    | refused hverdict hattended hrefused =>
      obtain ⟨-, -, rfl⟩ : "deleteTag" = (deleteTag id).name ∧ [.ofInt64 id] = (deleteTag id).args ∧
          raw = _ := by
        simpa using hemitted
      rw [hjudge] at hrefused
      cases hrefused
    | made | idle => rfl
    | lost hgranted hchanges hclosed => cases hclosed

end Action

namespace Store

/-- The tags that an initially empty store answers after a run of operations. Under an identifier lies the tag
that the last write about it brought, unless that took it out, and the list of all tags is in strictly
ascending order of their identifiers. A caller's write succeeds, except one to a monitor that is not there. To
delete a tag that is not there changes nothing, and is no error. -/
theorem tags_after_run (retention : Retention) (operations : List Operation) :
    let s := (Store.empty retention).after operations
    let writes := (Store.empty retention).writes operations
    (∀ id, s.tag id =
      match (StoreWrite.last? (StoreWrite.tagged? id) writes).join with
      | some t => .ok t
      | none => .error (.notFound "tag" id)) ∧
    (∀ id t, s.tag id = .ok t → t.id = id) ∧
    (∃ cached, s.tags = .ok cached ∧
      cached.Pairwise (·.id < ·.id) ∧ ∀ t, t ∈ cached ↔ s.tag t.id = .ok t) ∧
    (∀ w : StoreWrite, ((Operation.write w).on s).1.isOk = w.target?.all fun id => (s.monitor id).isOk) ∧
    ∀ id, s.tag id = .error (.notFound "tag" id) →
      (deleteTag id).on s = (.ok (), s) ∧
      ∀ {σ : Type} (e : Emitter σ) (x : σ),
        let run := (Action.deleteTag id).program.carriedOut e ⟨s, x, []⟩
        run.2.store = s ∧
        ∀ raw, .emitted "deleteTag" [.ofInt64 id] (.ok raw) ∈ run.2.steps →
          (Action.deleteTag id).Accepts raw → run.1.isOk = true := by
  intro s writes
  let c := StoreWrite.applyAll writes { retention }
  have hopen : s = ⟨some c⟩ := after_empty retention operations
  obtain ⟨table, htable⟩ : ∃ table, c.tags = .value table :=
    Received.exists_of_isSet (StoreWrite.isSet_tags_applyAll writes rfl)
  have htag (id : Int64) : s.tag id = entry "tag" table id := by
    rw [hopen, tag, tagTable_of_value htable]
    rfl
  have hfound (id : Int64) : table[id]? = (StoreWrite.last? (StoreWrite.tagged? id) writes).join := by
    rw [← Received.find?_value, ← htable, StoreWrite.find?_tags_applyAll]
    cases StoreWrite.last? (StoreWrite.tagged? id) writes with
    | none => exact Std.ExtTreeMap.getElem?_empty
    | some tagged => cases tagged <;> rfl
  have hkeyed (id : Int64) (t : Tag) (ht : table[id]? = some t) : t.id = id := by
    rw [hfound, Option.join_eq_some_iff] at ht
    obtain ⟨write, -, htagged⟩ := StoreWrite.exists_mem_of_last? ht
    exact StoreWrite.id_of_tagged? htagged
  refine ⟨fun id => ?_, fun id t ht => ?_, ⟨table.values, ?_, ?_, fun t => ?_⟩,
    isOk_write_after retention operations, fun id habsent => ?_⟩
  · rw [htag, entry, hfound]
    cases (StoreWrite.last? (StoreWrite.tagged? id) writes).join <;> rfl
  · rw [htag, entry_eq_ok] at ht
    exact hkeyed id t ht
  · rw [hopen]
    exact tags_of_value htable
  · exact IdMap.pairwise_values hkeyed
  · rw [htag, entry_eq_ok, IdMap.mem_values]
    constructor
    · rintro ⟨id, ht⟩
      obtain rfl := hkeyed id t ht
      exact ht
    · exact fun ht => ⟨t.id, ht⟩
  · have hnone : c.tags.find? id = none := by
      rw [htag, entry] at habsent
      rw [htable, Received.find?_value]
      cases hid : table[id]? with
      | none => rfl
      | some t =>
        rw [hid] at habsent
        cases habsent
    constructor
    · have herased : (deleteTag id).on s = (.ok (), ⟨some { c with tags := c.tags.map (·.erase id) }⟩) := by
        rw [hopen]
        rfl
      rw [herased, Received.map_erase_of_absent hnone, hopen]
    · intro σ e x
      rw [hopen]
      exact Action.deleteTag_of_absent hnone e x

end Store
end UptimeSync
