import UptimeSync.Proofs.Action.Acknowledged

namespace UptimeSync

variable {σ : Type}

/-- An emitter over which every request that is sent is acknowledged in the same way. What is awaited, and what
becomes of the emitter, are the emitter's own. -/
def Emitter.acknowledgedWith (e : Emitter σ) (raw : Json) : Emitter σ where
  await := e.await
  emit action args s x := (.ok raw, (e.emit action args s x).2)

@[simp] theorem Emitter.await_acknowledgedWith (e : Emitter σ) (raw : Json) :
    (e.acknowledgedWith raw).await = e.await := rfl

namespace Action

open Course

variable {a : Action} {s : Store} {x : σ}

/-- What the payload of an acknowledgement has to be, in the words of a message. -/
def wanted : Action → String
  | needSetup => "a boolean"
  | _ => "struct Envelope"

/-- Holds of an action that sends a request: the validator has nothing against what is sent, and it is no login
that is left to the server. -/
def Asks (a : Action) : Prop :=
  a.verdict = .ok () ∧ a.isUnattended = false

/-- Holds of the course of an action that has failed on a store without having looked at it. -/
def Discards (s : Store) (err : Error) (run : Except Error Answer × Course σ) : Prop :=
  run.1 = .error err ∧ run.2.store = s ∧ .accessed ∉ run.2.steps

/-- Text is no payload of any action that looks at it. -/
theorem judgePayload_string (hkind : a ≠ logout) (text : String) :
    a.judgePayload (.string text) =
      .error (.unreadableResponse a.name (.value (.wrongType (.string text) a.wanted))) := by
  cases a with
  | logout => exact absurd rfl hkind
  | _ => rfl

/-- The steps and the state of an emitter do not count for what becomes of a change. -/
theorem commit_congr {τ : Type} (e : Emitter σ) (f : Emitter τ) (y : τ) (first later : List Step)
    (changes : List Change) (answer : Answer) :
    let here := (Change.commit changes answer).carriedOut e ⟨s, x, first⟩
    let there := (Change.commit changes answer).carriedOut f ⟨s, y, later⟩
    here.1 = there.1 ∧ here.2.store = there.2.store := by
  obtain ⟨contents?⟩ := s
  cases contents? with
  | some c =>
    rw [Change.carriedOut_commit_open, Change.carriedOut_commit_open]
    exact ⟨rfl, rfl⟩
  | none =>
    rw [Change.carriedOut_commit_closed, Change.carriedOut_commit_closed]
    split <;> exact ⟨rfl, rfl⟩

/-- Acknowledgements that are judged alike are as good as each other for the result and for the store. -/
theorem carriedOut_congr (e : Emitter σ) (s : Store) (x : σ) {raw other : Json}
    (hjudge : a.judge raw = a.judge other) :
    let here := a.program.carriedOut (e.acknowledgedWith raw) ⟨s, x, []⟩
    let there := a.program.carriedOut (e.acknowledgedWith other) ⟨s, x, []⟩
    here.1 = there.1 ∧ here.2.store = there.2.store := by
  -- Up to the acknowledgement, if there comes one, the two courses are the same.
  cases hverdict : a.verdict with
  | error err =>
    rw [carriedOut_rejected hverdict, carriedOut_rejected hverdict]
    exact ⟨rfl, rfl⟩
  | ok =>
    cases hconnect : (e.await .connect s x).1 with
    | error err =>
      have hunconnected (raw : Json) :=
        carriedOut_unconnected (e := e.acknowledgedWith raw) hverdict hconnect
      rw [hunconnected raw, hunconnected other]
      exact ⟨rfl, rfl⟩
    | ok =>
      cases hattended : a.isUnattended with
      | true =>
        have hunattended (raw : Json) :=
          carriedOut_unattended (e := e.acknowledgedWith raw) hattended hconnect
        rw [hunattended raw, hunattended other, Emitter.await_acknowledgedWith,
          Emitter.await_acknowledgedWith]
        cases (e.await .autoLogin s (e.await .connect s x).2).1 with
        | error => exact ⟨rfl, rfl⟩
        | ok => exact commit_congr _ _ _ _ _ _ _
      | false =>
        have hacknowledged (raw : Json) : (e.acknowledgedWith raw).Acknowledges a s x raw := ⟨hconnect, rfl⟩
        rw [carriedOut_of_acknowledged hverdict hattended (hacknowledged raw),
          carriedOut_of_acknowledged hverdict hattended (hacknowledged other), hjudge]
        cases a.judge other with
        | error => exact ⟨rfl, rfl⟩
        | ok outcome => exact commit_congr _ _ _ _ _ _ _

theorem discards_of_judge_error {e : Emitter σ} {raw : Json} {err : Error} (hasks : a.Asks)
    (hacknowledged : e.Acknowledges a s x raw) (hjudge : a.judge raw = .error err) :
    Discards s err (a.program.carriedOut e ⟨s, x, []⟩) := by
  obtain ⟨hresult, hstore, hsteps⟩ := carriedOut_of_judge_error hasks.1 hasks.2 hacknowledged hjudge
  refine ⟨hresult, hstore, ?_⟩
  simp [hsteps]

/-- An acknowledgement is as good as the same one with its payload written as text, whatever action it is for
and however that action ends. An acknowledgement without a payload, or with text that cannot be read, is
discarded, and so is text inside of text: it is read once only. -/
theorem payload_encodings_agree (hkind : a ≠ logout) (e : Emitter σ) (s : Store) (x : σ) :
    (∀ p text, (∀ inner, p ≠ .string inner) → Json.read? text = some p →
      let direct := a.program.carriedOut (e.acknowledgedWith (.array [p])) ⟨s, x, []⟩
      let encoded := a.program.carriedOut (e.acknowledgedWith (.array [.string text])) ⟨s, x, []⟩
      direct.1 = encoded.1 ∧ direct.2.store = encoded.2.store) ∧
    ∀ raw, a.Asks → e.Acknowledges a s x raw →
      let run := a.program.carriedOut e ⟨s, x, []⟩
      ((∀ p, raw ≠ .array [p]) → Discards s (.invalidResponse a.name) run) ∧
      ∀ text, raw = .array [.string text] →
        (Json.read? text = none → Discards s (.unreadableResponse a.name .malformed) run) ∧
        ∀ inner, Json.read? text = some (.string inner) →
          Discards s (.unreadableResponse a.name (.value (.wrongType (.string inner) a.wanted))) run := by
  refine ⟨fun p text hp hread => ?_, fun raw hasks hacknowledged => ⟨fun hraw => ?_, fun text hraw => ⟨?_, ?_⟩⟩⟩
  · have hdirect : a.judge (.array [p]) = a.judgePayload p := judge_of_carries hkind (.direct hp)
    have hencoded : a.judge (.array [.string text]) = a.judgePayload p :=
      judge_of_carries hkind (.encoded hread)
    exact carriedOut_congr e s x (hdirect.trans hencoded.symm)
  · have hpayload := Reply.payload_misshapen a.name hraw
    exact discards_of_judge_error hasks hacknowledged (judge_of_payload_error hkind hpayload)
  · intro hread
    have hpayload := Reply.payload_malformed a.name hread
    subst hraw
    exact discards_of_judge_error hasks hacknowledged (judge_of_payload_error hkind hpayload)
  · intro inner hread
    have hjudge := judge_of_carries hkind (.encoded hread)
    rw [judgePayload_string hkind] at hjudge
    subst hraw
    exact discards_of_judge_error hasks hacknowledged hjudge

/-- A tag is deleted in either way, and stays if the acknowledgement is empty. -/
theorem deleteTag_answered_alike :
    let run raw := (deleteTag 3).program.carriedOut (.acknowledging raw) ⟨.empty {}, (), []⟩
    (run (.array [.string "\x7b\"ok\":true\x7d"])).1 = .ok .nothing ∧
    Discards (.empty {}) (.invalidResponse "deleteTag") (run (.array [])) := by
  have htext : "\x7b\"ok\":true\x7d".toList =
      ['\x7b', '\"', 'o', 'k', '\"', ':', 't', 'r', 'u', 'e', '\x7d'] := by rfl
  have hread : Json.read? "\x7b\"ok\":true\x7d" = some (.object [("ok", .bool true)]) := by
    rw [Json.read?, htext]
    rfl
  refine ⟨?_, ?_⟩
  · have hagree := (payload_encodings_agree (a := deleteTag 3) nofun (.acknowledging .null) (.empty {}) ()).1
      (.object [("ok", .bool true)]) "\x7b\"ok\":true\x7d" nofun hread
    exact hagree.1.symm
  · exact ((payload_encodings_agree (a := deleteTag 3) nofun (.acknowledging (.array [])) (.empty {}) ()).2
      (.array []) ⟨rfl, rfl⟩ (Emitter.acknowledging_acknowledges _ _ _)).1 nofun

end Action
end UptimeSync
