import UptimeSync.Proofs.Action.Ending
import UptimeSync.Proofs.Results

namespace UptimeSync.Action

open Course

/-- Holds of the fields of an acknowledgement that has what an action cannot do without. A login also
needs that no second factor is asked for. -/
def Complete (a : Action) (body : Wire.Entries) : Prop :=
  match a with
  | login .. => body.flag "tokenRequired" = false
  | prepareTwoFactor _ => (body.optText "uri").isSome
  | addTag .. | editTag _ => (body.exact "tag" Program.nestedTag none).isSome
  | addMonitor _ => (body.optInt "monitorID").isSome
  | getSettings => (body.exact "data" Program.nestedSettings none).isSome
  | _ => True

/-- Holds of an acknowledgement that can be read, says that the action was carried out, and is
complete. The one action whose acknowledgement has another form never touches the store. -/
def Accepts (a : Action) (raw : Json) : Prop :=
  ∃ reply, a.reply raw = .ok reply ∧ reply.ok = true ∧ a.Complete reply.body

/-- What has to have happened before an action may look at the store or write it: the acknowledgement
has come and, but for a logout, been accepted. A login that is left to the server has no
acknowledgement; for it both events have been awaited. -/
def Cleared (a : Action) (steps : List Step) : Prop :=
  if a.isUnattended then
    .awaited .connect (.ok ()) ∈ steps ∧ .awaited .autoLogin (.ok ()) ∈ steps
  else ∃ raw, .emitted a.name a.args (.ok raw) ∈ steps ∧ (a = logout ∨ a.Accepts raw)

variable {σ : Type} {a : Action} {s : Store}

theorem Cleared.mono {steps longer : List Step} (hcleared : a.Cleared steps) (hsub : steps ⊆ longer) :
    a.Cleared longer := by
  rw [Cleared] at hcleared ⊢
  split
  · next hunattended =>
    rw [if_pos hunattended] at hcleared
    exact ⟨hsub hcleared.1, hsub hcleared.2⟩
  · next hattended =>
    rw [if_neg hattended] at hcleared
    obtain ⟨raw, hraw, haccepted⟩ := hcleared
    exact ⟨raw, hsub hraw, haccepted⟩

theorem ok_of_approve {reply : Reply} {body : Wire.Entries} (happrove : a.approve reply = .ok body) :
    reply.ok = true ∧ reply.body = body := by
  cases a with
  | login username password token =>
    rw [approve] at happrove
    split at happrove
    · cases happrove
    · split at happrove
      · next hok => exact ⟨hok, Except.ok.inj happrove⟩
      · cases happrove
  | _ =>
    simp only [approve, Reply.accepted] at happrove
    split at happrove
    · next hok => exact ⟨hok, Except.ok.inj happrove⟩
    · cases happrove

/-- No action is approved and settled by an acknowledgement that lacks something. -/
theorem complete_of_settle {reply : Reply} {outcome : Answer × List Change}
    (happrove : a.approve reply = .ok reply.body) (hsettle : a.settle reply.body = .ok outcome) :
    a.Complete reply.body := by
  cases a with
  | login =>
    rw [approve] at happrove
    split at happrove
    · cases happrove
    · next hrequired => exact Bool.eq_false_iff.mpr hrequired
  | prepareTwoFactor | addTag | editTag | addMonitor | getSettings =>
    rw [settle] at hsettle
    rw [Complete, Option.isSome_iff_ne_none]
    intro habsent
    rw [habsent] at hsettle
    cases hsettle
  | _ => trivial

theorem accepts_of_settled {raw : Json} {outcome : Answer × List Change}
    (hsettled : (a.reply raw >>= a.approve >>= a.settle) = .ok outcome) : a.Accepts raw := by
  obtain ⟨body, happroved, hsettle⟩ := Except.bind_eq_ok.mp hsettled
  obtain ⟨reply, hreply, happrove⟩ := Except.bind_eq_ok.mp happroved
  obtain ⟨hok, rfl⟩ := ok_of_approve happrove
  exact ⟨reply, hreply, hok, complete_of_settle happrove hsettle⟩

/-- An action that changes the store has an acknowledgement that it accepts, unless it is a logout. -/
theorem accepts_of_judge {raw : Json} {answer : Answer} {changes : List Change}
    (hjudge : a.judge raw = .ok (answer, changes)) (hchanges : changes ≠ []) :
    a = logout ∨ a.Accepts raw := by
  cases a with
  | logout => exact .inl rfl
  | needSetup =>
    rw [judge] at hjudge
    cases hflag : Reply.decode needSetup.name Json.exactFlag raw with
    | error e =>
      rw [hflag] at hjudge
      cases hjudge
    | ok b =>
      rw [hflag] at hjudge
      cases hjudge
      exact absurd rfl hchanges
  | _ => exact .inr (accepts_of_settled hjudge)

theorem Granted.cleared {steps : List Step} {answer : Answer} {changes : List Change}
    (hgranted : a.Granted steps answer changes) (hchanges : changes ≠ []) : a.Cleared steps := by
  rw [Cleared]
  cases hgranted with
  | acknowledged hverdict hattended hjudge =>
    rw [hattended]
    exact ⟨_, .tail _ (.head _), accepts_of_judge hjudge hchanges⟩
  | announced hunattended =>
    rw [if_pos hunattended]
    exact ⟨.head _, .tail _ (.head _)⟩

theorem Granted.verdict {steps : List Step} {answer : Answer} {changes : List Change}
    (hgranted : a.Granted steps answer changes) : a.verdict = .ok () := by
  cases hgranted with
  | acknowledged hverdict => exact hverdict
  | announced hunattended => exact verdict_of_unattended hunattended

theorem Granted.countP_isRequest {steps : List Step} {answer : Answer} {changes : List Change}
    (hgranted : a.Granted steps answer changes) : steps.countP Step.isRequest ≤ 1 := by
  cases hgranted with
  | acknowledged => exact Nat.le_refl 1
  | announced => exact Nat.zero_le 1

theorem Granted.not_accessed_mem {steps : List Step} {answer : Answer} {changes : List Change}
    (hgranted : a.Granted steps answer changes) : .accessed ∉ steps := by
  cases hgranted <;> simp

theorem Granted.connected {steps : List Step} {answer : Answer} {changes : List Change}
    (hgranted : a.Granted steps answer changes) (e : Error) :
    .awaited .connect (.error e) ∉ steps := by
  cases hgranted <;> simp

/-- What comes before an access to the store includes everything that an action was granted by. -/
private theorem subset_before {granted accesses before after : List Step} (hgranted : .accessed ∉ granted)
    (hsteps : granted ++ accesses = before ++ .accessed :: after) : granted ⊆ before := by
  obtain ⟨between, rfl, -⟩ | ⟨later, rfl, hafter⟩ := List.append_eq_append_iff.mp hsteps
  · exact List.subset_append_left granted between
  · cases later with
    | nil => simp
    | cons step rest =>
      obtain ⟨rfl, -⟩ := List.cons.inj hafter
      simp at hgranted

variable {result : Except Error Answer} {after : Store} {steps : List Step}

theorem Ending.countP_isRequest (hending : a.Ending s result after steps) :
    steps.countP Step.isRequest ≤ 1 := by
  cases hending with
  | rejected => exact Nat.zero_le 1
  | unconnected => exact Nat.zero_le 1
  | unsent => exact Nat.le_refl 1
  | refused => exact Nat.le_refl 1
  | unannounced => exact Nat.zero_le 1
  | made hgranted =>
    rw [List.countP_append, List.countP_replicate]
    exact hgranted.countP_isRequest
  | idle hgranted => exact hgranted.countP_isRequest
  | lost hgranted =>
    rw [List.countP_append]
    exact hgranted.countP_isRequest

/-- If the validator refuses or the connection is not made, nothing is sent. -/
theorem Ending.no_request (hending : a.Ending s result after steps)
    (hfailed : (∃ e, a.verdict = .error e) ∨ ∃ e, .awaited .connect (.error e) ∈ steps) :
    steps.countP Step.isRequest = 0 := by
  have hcontra : a.verdict = .ok () → (∀ e, .awaited .connect (.error e) ∉ steps) → False := by
    intro hverdict hconnected
    obtain ⟨e, hrejected⟩ | ⟨e, hunconnected⟩ := hfailed
    · rw [hverdict] at hrejected
      cases hrejected
    · exact hconnected e hunconnected
  cases hending with
  | rejected => rfl
  | unconnected => rfl
  | unsent hverdict => exact (hcontra hverdict (by simp)).elim
  | refused hverdict => exact (hcontra hverdict (by simp)).elim
  | unannounced => rfl
  | made hgranted =>
    exact (hcontra hgranted.verdict fun e => by simp [hgranted.connected e]).elim
  | idle hgranted => exact (hcontra hgranted.verdict hgranted.connected).elim
  | lost hgranted =>
    exact (hcontra hgranted.verdict fun e => by simp [hgranted.connected e]).elim

/-- An action does not touch the store before it is cleared for it. -/
theorem Ending.cleared (hending : a.Ending s result after steps) {before later : List Step}
    (hsteps : steps = before ++ .accessed :: later) : a.Cleared before := by
  have hmem : .accessed ∈ steps := by simp [hsteps]
  cases hending with
  | rejected => cases hmem
  | unconnected => simp at hmem
  | unsent => simp at hmem
  | refused => simp at hmem
  | unannounced => simp at hmem
  | @made granted answer changes c hgranted hopen =>
    have hchanges : changes ≠ [] := by
      rintro rfl
      rw [List.length_nil, List.replicate_zero, List.append_nil] at hmem
      exact hgranted.not_accessed_mem hmem
    exact (hgranted.cleared hchanges).mono (subset_before hgranted.not_accessed_mem hsteps)
  | idle hgranted => exact absurd hmem hgranted.not_accessed_mem
  | lost hgranted hchanges =>
    exact (hgranted.cleared hchanges).mono (subset_before hgranted.not_accessed_mem hsteps)

/-- What an action may rely on and what it may not do, however the emitter behaves. It sends at most
one request, and none if the validator refuses or the connection is not made. It does not touch the
store before it is cleared for it. If it fails, the store is as it was. -/
theorem disciplined (a : Action) (e : Emitter σ) (s : Store) (x : σ) :
    let run := a.program.carriedOut e ⟨s, x, []⟩
    run.2.steps.countP Step.isRequest ≤ 1 ∧
    ((∃ err, a.verdict = .error err) ∨ (∃ err, .awaited .connect (.error err) ∈ run.2.steps) →
      run.2.steps.countP Step.isRequest = 0) ∧
    (∀ before later, run.2.steps = before ++ .accessed :: later → a.Cleared before) ∧
    (∀ err, run.1 = .error err → run.2.store = s) := by
  have hends := a.ends e s x
  refine ⟨hends.countP_isRequest, hends.no_request, fun _ _ => hends.cleared, fun err hfailed => ?_⟩
  rw [Ends, hfailed] at hends
  exact hends.store_of_error

/-- A monitor is deleted in four steps, the last two of which are cleared by the acknowledgement. A
refusal leaves a store as it is. A tag without a name is not sent. -/
theorem deleteMonitor_disciplined :
    (deleteMonitor 7).Cleared
      [.awaited .connect (.ok ()),
       .emitted "deleteMonitor" [.ofInt64 7] (.ok (.array [.object [("ok", .bool true)]]))] ∧
    ((deleteMonitor 7).program.carriedOut
      (.acknowledging (.array [.object [("ok", .bool false)]])) ⟨.empty {}, (), []⟩).2.store =
        .empty {} ∧
    ((editTag {}).program.carriedOut (.acknowledging .null) ⟨.empty {}, (), []⟩).2.steps.countP
      Step.isRequest = 0 :=
  ⟨((deleteMonitor 7).disciplined (.acknowledging (.array [.object [("ok", .bool true)]]))
      (.empty {}) ()).2.2.1 _ [.accessed] rfl,
    ((deleteMonitor 7).disciplined (.acknowledging (.array [.object [("ok", .bool false)]]))
      (.empty {}) ()).2.2.2 (.refused "deleteMonitor" "") rfl,
    ((editTag {}).disciplined (.acknowledging .null) (.empty {}) ()).2.1 (.inl ⟨_, rfl⟩)⟩

end UptimeSync.Action
