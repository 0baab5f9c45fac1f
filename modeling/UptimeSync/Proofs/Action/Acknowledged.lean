import UptimeSync.Proofs.Action.Ending
import UptimeSync.Proofs.Action.Reply

namespace UptimeSync

variable {σ : Type}

/-- Holds of an emitter over which the connection stands and the request of an action is acknowledged. -/
structure Emitter.Acknowledges (e : Emitter σ) (a : Action) (s : Store) (x : σ) (raw : Json) : Prop where
  connected : (e.await .connect s x).1 = .ok ()
  acknowledged : (e.emit a.name a.args s (e.await .connect s x).2).1 = .ok raw

theorem Emitter.acknowledging_acknowledges (a : Action) (s : Store) (raw : Json) :
    (Emitter.acknowledging raw).Acknowledges a s () raw :=
  ⟨rfl, rfl⟩

namespace Action

open Course

variable {a : Action} {e : Emitter σ} {s : Store} {x : σ} {raw : Json}

theorem carriedOut_unsent {err : Error} (hverdict : a.verdict = .ok ()) (hattended : a.isUnattended = false)
    (hconnect : (e.await .connect s x).1 = .ok ())
    (hunsent : (e.emit a.name a.args s (e.await .connect s x).2).1 = .error err) :
    let run := a.program.carriedOut e ⟨s, x, []⟩
    run.1 = .error (.emitFailed a.name err) ∧
      run.2.steps = [.awaited .connect (.ok ()), .emitted a.name a.args (.error err)] := by
  rw [carriedOut_connected hverdict hattended hconnect, hunsent]
  exact ⟨rfl, rfl⟩

theorem carriedOut_of_acknowledged (hverdict : a.verdict = .ok ()) (hattended : a.isUnattended = false)
    (hacknowledged : e.Acknowledges a s x raw) :
    a.program.carriedOut e ⟨s, x, []⟩ =
      (Program.done (a.judge raw) >>= fun outcome => Change.commit outcome.2 outcome.1).carriedOut e
        ⟨s, (e.emit a.name a.args s (e.await .connect s x).2).2,
          [.awaited .connect (.ok ()), .emitted a.name a.args (.ok raw)]⟩ := by
  rw [carriedOut_connected hverdict hattended hacknowledged.connected, hacknowledged.acknowledged,
    Program.done_mapError_ok_bind]

/-- An action whose acknowledgement is to its liking succeeds on an open store and makes its changes, after it
has waited for the connection and sent its request. -/
theorem carriedOut_of_judge {c : Store.Contents} {answer : Answer} {changes : List Change}
    (hverdict : a.verdict = .ok ()) (hattended : a.isUnattended = false)
    (hacknowledged : e.Acknowledges a ⟨some c⟩ x raw) (hjudge : a.judge raw = .ok (answer, changes)) :
    let run := a.program.carriedOut e ⟨⟨some c⟩, x, []⟩
    run.1 = .ok answer ∧ run.2.store = ⟨some (Change.applyAll changes c)⟩ ∧
      run.2.steps = [.awaited .connect (.ok ()), .emitted a.name a.args (.ok raw)] ++
        .replicate changes.length .accessed := by
  rw [carriedOut_of_acknowledged hverdict hattended hacknowledged, hjudge, Program.done_ok_bind,
    Change.carriedOut_commit_open]
  exact ⟨rfl, rfl, rfl⟩

/-- An action whose acknowledgement is not to its liking fails and never looks at the store. -/
theorem carriedOut_of_judge_error {err : Error} (hverdict : a.verdict = .ok ())
    (hattended : a.isUnattended = false) (hacknowledged : e.Acknowledges a s x raw)
    (hjudge : a.judge raw = .error err) :
    let run := a.program.carriedOut e ⟨s, x, []⟩
    run.1 = .error err ∧ run.2.store = s ∧
      run.2.steps = [.awaited .connect (.ok ()), .emitted a.name a.args (.ok raw)] := by
  rw [carriedOut_of_acknowledged hverdict hattended hacknowledged, hjudge]
  exact ⟨rfl, rfl, rfl⟩

/-- On an open store an acknowledged action gives what its acknowledgement is judged to be, and has sent one
request. -/
theorem result_of_acknowledged {c : Store.Contents} (hverdict : a.verdict = .ok ())
    (hattended : a.isUnattended = false) (hacknowledged : e.Acknowledges a ⟨some c⟩ x raw) :
    let run := a.program.carriedOut e ⟨⟨some c⟩, x, []⟩
    run.1 = (a.judge raw).map Prod.fst ∧
      run.2.steps.filter Step.isRequest = [.emitted a.name a.args (.ok raw)] := by
  cases hjudge : a.judge raw with
  | error err =>
    obtain ⟨hresult, -, hsteps⟩ := carriedOut_of_judge_error hverdict hattended hacknowledged hjudge
    refine ⟨hresult, ?_⟩
    rw [hsteps]
    rfl
  | ok outcome =>
    obtain ⟨hresult, -, hsteps⟩ := carriedOut_of_judge hverdict hattended hacknowledged hjudge
    refine ⟨hresult, ?_⟩
    rw [hsteps, List.filter_append]
    simp [Step.isRequest]

/-- What the payload of an acknowledgement makes of an action. A logout does not look at it. -/
def judgePayload (a : Action) (v : Json) : Except Error (Answer × List Change) :=
  match a with
  | logout => a.settle ⟨[]⟩
  | needSetup =>
    (v.exactFlag.mapError fun fault => .unreadableResponse a.name (.value fault)).map fun b => (.flag b, [])
  | a =>
    ((Reply.ofJson a.fields v).mapError fun fault => .unreadableResponse a.name (.value fault)) >>=
      a.approve >>= a.settle

/-- But for a logout, it is only the payload of an acknowledgement that counts. -/
theorem judge_eq (hkind : a ≠ logout) (raw : Json) :
    a.judge raw = Reply.payload a.name raw >>= a.judgePayload := by
  cases a with
  | logout => exact absurd rfl hkind
  | _ =>
    simp only [judge, reply, Reply.decode]
    cases Reply.payload _ raw <;> rfl

theorem judge_of_carries {v : Json} (hkind : a ≠ logout) (hcarries : Reply.Carries raw v) :
    a.judge raw = a.judgePayload v := by
  rw [judge_eq hkind, hcarries.payload_eq]
  rfl

theorem judge_of_payload_error {err : Error} (hkind : a ≠ logout)
    (hpayload : Reply.payload a.name raw = .error err) : a.judge raw = .error err := by
  rw [judge_eq hkind, hpayload]
  rfl

end Action
end UptimeSync
