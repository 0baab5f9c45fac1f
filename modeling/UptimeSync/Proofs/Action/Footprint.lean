import UptimeSync.Proofs.Action.Ending
import UptimeSync.Proofs.Results

namespace UptimeSync.Action

/-- Holds of the contents of a store before and after the monitor under an identifier was switched on
or off. A monitor that is not there is not made. -/
def Switched (id : Int64) (active : Bool) (before after : Store.Contents) : Prop :=
  after = { before with monitors := after.monitors } ∧
  after.monitors.isSet = before.monitors.isSet ∧
  (∀ other, after.monitors.find? other =
    if id = other then (before.monitors.find? other).map fun m => { m with active }
    else before.monitors.find? other) ∧
  (before.monitors.find? id = none → after = before)

/-- What an action that gives an answer makes of the contents of a store. Whatever is not mentioned is
as it was. -/
def Footprint (a : Action) (answer : Answer) (before after : Store.Contents) : Prop :=
  match a with
  | login .. | loginByToken _ => after = { before with loggedIn := true }
  | logout => after = { before with loggedIn := false }
  | getTags =>
    after = { before with tags := after.tags } ∧
    ∃ tags, answer = .tags tags ∧ after.tags.isSet = true ∧
      ∀ id, after.tags.find? id = tags.reverse.find? (·.id == id)
  | addTag .. | editTag _ =>
    after = { before with tags := after.tags } ∧
    ∃ t, answer = .tag t ∧ before.tags.Gained t.id t after.tags
  | deleteTag id =>
    after = { before with tags := after.tags } ∧
    before.tags.Dropped id after.tags
  | addMonitor m =>
    after = { before with monitors := after.monitors } ∧
    ∃ id, answer = .id id ∧ before.monitors.Gained id { m with id } after.monitors
  | editMonitor m =>
    after = { before with monitors := after.monitors } ∧
    before.monitors.Gained m.id m after.monitors
  | deleteMonitor id =>
    after = { before with
      monitors := after.monitors
      heartbeats := after.heartbeats
      importantHeartbeats := after.importantHeartbeats } ∧
    before.monitors.Dropped id after.monitors ∧
    before.heartbeats.Dropped id after.heartbeats ∧
    before.importantHeartbeats.Dropped id after.importantHeartbeats
  | pauseMonitor id => Switched id false before after
  | resumeMonitor id => Switched id true before after
  | clearHeartbeats id =>
    after = { before with
      heartbeats := after.heartbeats
      importantHeartbeats := after.importantHeartbeats } ∧
    before.heartbeats.Dropped id after.heartbeats ∧
    before.importantHeartbeats.Dropped id after.importantHeartbeats
  | getSettings => ∃ settings, answer = .settings settings ∧
    after = { before with settings := .value settings }
  | setSettings settings _ => after = { before with settings := .value settings }
  | _ => after = before

theorem switched_active (id : Int64) (active : Bool) (c : Store.Contents) :
    Switched id active c ((Change.active id active).apply c) := by
  refine ⟨rfl, Received.isSet_map _ _, fun other => Received.find?_modify _ _ _ _, fun habsent => ?_⟩
  rw [Change.apply, Received.map_modify_of_absent habsent]

theorem footprint_of_settle {a : Action} {body : Wire.Entries} {answer : Answer} {changes : List Change}
    (hsettle : a.settle body = .ok (answer, changes)) (c : Store.Contents) :
    a.Footprint answer c (Change.applyAll changes c) := by
  cases a with
  | getTags =>
    cases hsettle
    refine ⟨rfl, _, rfl, rfl, fun id => ?_⟩
    change (List.foldl _ (∅ : IdMap Tag) _)[id]? = _
    rw [IdMap.getElem?_foldl_insert]
    simp
  | prepareTwoFactor =>
    obtain ⟨uri, -, hanswer⟩ := Option.elim_error_eq_ok.mp hsettle
    cases hanswer
    rfl
  | addTag | editTag =>
    obtain ⟨t, -, hanswer⟩ := Option.elim_error_eq_ok.mp hsettle
    cases hanswer
    exact ⟨rfl, t, rfl, Received.gained_insert t.id t c.tags⟩
  | deleteTag id =>
    cases hsettle
    exact ⟨rfl, Received.dropped_erase id c.tags⟩
  | addMonitor m =>
    obtain ⟨id, -, hanswer⟩ := Option.elim_error_eq_ok.mp hsettle
    cases hanswer
    exact ⟨rfl, id, rfl, Received.gained_insert id _ c.monitors⟩
  | editMonitor m =>
    cases hsettle
    exact ⟨rfl, Received.gained_insert m.id m c.monitors⟩
  | deleteMonitor id =>
    cases hsettle
    exact ⟨rfl, Received.dropped_erase id c.monitors, Received.dropped_erase id c.heartbeats,
      Received.dropped_erase id c.importantHeartbeats⟩
  | pauseMonitor id =>
    cases hsettle
    exact switched_active id false c
  | resumeMonitor id =>
    cases hsettle
    exact switched_active id true c
  | clearHeartbeats id =>
    cases hsettle
    exact ⟨rfl, Received.dropped_erase id c.heartbeats, Received.dropped_erase id c.importantHeartbeats⟩
  | getSettings =>
    obtain ⟨settings, -, hanswer⟩ := Option.elim_error_eq_ok.mp hsettle
    cases hanswer
    exact ⟨settings, rfl, rfl⟩
  | _ =>
    cases hsettle
    rfl

theorem footprint_of_judge {a : Action} {raw : Json} {answer : Answer} {changes : List Change}
    (hjudge : a.judge raw = .ok (answer, changes)) (c : Store.Contents) :
    a.Footprint answer c (Change.applyAll changes c) := by
  cases a with
  | logout =>
    have hsettle : logout.settle ⟨[]⟩ = .ok (answer, changes) := hjudge
    exact footprint_of_settle hsettle c
  | needSetup =>
    cases hflag : Reply.decode needSetup.name Json.exactFlag raw with
    | error e =>
      rw [judge, hflag] at hjudge
      cases hjudge
    | ok b =>
      rw [judge, hflag] at hjudge
      cases hjudge
      rfl
  | _ =>
    obtain ⟨body, -, hsettle⟩ := Except.bind_eq_ok.mp hjudge
    exact footprint_of_settle hsettle c

theorem Granted.footprint {a : Action} {steps : List Course.Step} {answer : Answer}
    {changes : List Change} (hgranted : a.Granted steps answer changes) (c : Store.Contents) :
    a.Footprint answer c (Change.applyAll changes c) := by
  cases hgranted with
  | acknowledged hverdict hattended hjudge => exact footprint_of_judge hjudge c
  | announced hunattended =>
    cases a with
    | login => rfl
    | _ => cases hunattended

theorem Ending.footprint {a : Action} {before : Store.Contents} {answer : Answer} {left : Store}
    {steps : List Course.Step} (hending : a.Ending ⟨some before⟩ (.ok answer) left steps) :
    ∃ after, left = ⟨some after⟩ ∧ a.Footprint answer before after := by
  cases hending with
  | made hgranted hopen =>
    cases hopen
    exact ⟨_, rfl, hgranted.footprint before⟩
  | idle _ hclosed => cases hclosed

/-- An action that succeeds on an open store leaves its footprint on it and changes nothing else. -/
theorem store_after_success {σ : Type} (a : Action) (e : Emitter σ) (before : Store.Contents) (x : σ)
    (answer : Answer) (hanswer : (a.program.carriedOut e ⟨⟨some before⟩, x, []⟩).1 = .ok answer) :
    ∃ after, (a.program.carriedOut e ⟨⟨some before⟩, x, []⟩).2.store = ⟨some after⟩ ∧
      a.Footprint answer before after := by
  have hends := a.ends e ⟨some before⟩ x
  rw [Ends, hanswer] at hends
  exact hends.footprint

/-- A monitor that the store does not hold is deleted all the same, together with its heartbeats. -/
theorem deleteMonitor_footprint :
    ∃ after, ((deleteMonitor 7).program.carriedOut
        (.acknowledging (.array [.object [("ok", .bool true)]]))
        ⟨⟨some { heartbeats := .value ((∅ : Buffers).insert 7 {}) }⟩, (), []⟩).2.store = ⟨some after⟩ ∧
      (deleteMonitor 7).Footprint .nothing { heartbeats := .value ((∅ : Buffers).insert 7 {}) } after :=
  store_after_success (deleteMonitor 7) (.acknowledging (.array [.object [("ok", .bool true)]]))
    { heartbeats := .value ((∅ : Buffers).insert 7 {}) } () .nothing rfl

end UptimeSync.Action
