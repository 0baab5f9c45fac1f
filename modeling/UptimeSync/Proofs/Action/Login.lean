import UptimeSync.Proofs.Action.Acknowledged
import UptimeSync.Proofs.Action.Footprint

namespace UptimeSync

/-- The member of an object under a key. An absent one is null, and what is no object has none. -/
def Json.member (v : Json) (key : String) : Json :=
  match v with
  | .object members => (members.lookup key).getD .null
  | _ => .null

/-- Holds of the payload of a login's acknowledgement, if it can be read, and what its fields say. -/
structure Json.LoginReply (v : Json) (accepted : Bool) (msg : String) (required : Bool) (token : String) :
    Prop where
  isObject : ∃ members, v = .object members
  accepted : (v.member "ok").looseFlag = .ok accepted
  msg : (v.member "msg").looseText = .ok msg
  required : (v.member "tokenRequired").looseFlag = .ok required
  token : (v.member "token").looseText = .ok token

namespace Reply

open Wire

variable {members : Json.Members} {v : Json}

theorem login_plain : (own Program.loginFields).Plain :=
  ⟨by decide, by decide⟩

theorem login_apart : ∀ slot ∈ Program.loginFields, envelope.knows slot.name = false := by decide

theorem envelope_suits_iff :
    envelope.Suits members ↔
      (∃ b, ((members.lookup "ok").getD .null).looseFlag = .ok b) ∧
        ∃ s, ((members.lookup "msg").getD .null).looseText = .ok s := by
  rw [Schema.Suits, envelope, List.forall_mem_cons, List.forall_mem_singleton, ← Kind.check_getD rfl,
    ← Kind.check_getD rfl, Kind.check_flag, Kind.check_text]

theorem login_suits_iff :
    (own Program.loginFields).Suits members ↔
      (∃ s, ((members.lookup "token").getD .null).looseText = .ok s) ∧
        ∃ b, ((members.lookup "tokenRequired").getD .null).looseFlag = .ok b := by
  rw [Schema.Suits, own, Program.loginFields, List.forall_mem_cons, List.forall_mem_singleton,
    ← Kind.check_getD rfl, ← Kind.check_getD rfl, Kind.check_flag, Kind.check_text]

theorem exists_loginReply_iff :
    (∃ accepted msg required token, v.LoginReply accepted msg required token) ↔
      ∃ members, v = .object members ∧ envelope.Suits members ∧ (own Program.loginFields).Suits members := by
  constructor
  · rintro ⟨accepted, msg, required, token, ⟨members, rfl⟩, haccepted, hmsg, hrequired, htoken⟩
    exact ⟨members, rfl, envelope_suits_iff.mpr ⟨⟨accepted, haccepted⟩, ⟨msg, hmsg⟩⟩,
      login_suits_iff.mpr ⟨⟨token, htoken⟩, ⟨required, hrequired⟩⟩⟩
  · rintro ⟨members, rfl, hcommon, hown⟩
    obtain ⟨⟨accepted, haccepted⟩, ⟨msg, hmsg⟩⟩ := envelope_suits_iff.mp hcommon
    obtain ⟨⟨token, htoken⟩, ⟨required, hrequired⟩⟩ := login_suits_iff.mp hown
    exact ⟨accepted, msg, required, token, ⟨members, rfl⟩, haccepted, hmsg, hrequired, htoken⟩

/-- A login's acknowledgement that can be read is read as what its fields say. -/
theorem ofJson_of_loginReply {accepted required : Bool} {msg token : String} (hv : v.WellFormed)
    (hreply : v.LoginReply accepted msg required token) :
    ∃ reply, ofJson Program.loginFields v = .ok reply ∧ reply.ok = accepted ∧ reply.msg.getD "" = msg ∧
      reply.body.flag "tokenRequired" = required ∧ reply.body.text "token" = token := by
  obtain ⟨members, rfl, hcommon, hown⟩ := exists_loginReply_iff.mp ⟨_, _, _, _, hreply⟩
  obtain ⟨common, body, hread, hcommonValues, hbodyValues⟩ :=
    ofJson_of_suits login_plain login_apart hv.members.1.nodup_keys hcommon hown
  have hok : common.value "ok" = (members.lookup "ok").getD .null := hcommonValues _ (.head _)
  have hmsg : common.value "msg" = (members.lookup "msg").getD .null := hcommonValues _ (.tail _ (.head _))
  have htoken : body.value "token" = (members.lookup "token").getD .null := hbodyValues _ (.head _)
  have hrequired : body.value "tokenRequired" = (members.lookup "tokenRequired").getD .null :=
    hbodyValues _ (.tail _ (.head _))
  refine ⟨_, hread, ?_, ?_, ?_, ?_⟩
  · exact Entries.flag_of_looseFlag (hok ▸ hreply.accepted)
  · exact Entries.text_of_looseText (hmsg ▸ hreply.msg)
  · exact Entries.flag_of_looseFlag (hrequired ▸ hreply.required)
  · exact Entries.text_of_looseText (htoken ▸ hreply.token)

/-- Nothing else can be read. -/
theorem ofJson_of_not_loginReply
    (hreply : ¬∃ accepted msg required token, v.LoginReply accepted msg required token) :
    ∃ fault, ofJson Program.loginFields v = .error fault := by
  refine Except.exists_error_of_ne_ok fun reply hread => hreply ?_
  exact exists_loginReply_iff.mpr (suits_of_ofJson login_plain login_apart hread)

end Reply

namespace Action

open Course

/-- What a login gives for an acknowledgement that can be read. That a second factor is asked for counts first,
then whether the login was accepted. -/
def loginResult (accepted : Bool) (msg : String) (required : Bool) (token : String) : Except Error Answer :=
  if required then .error .tokenRequired
  else if accepted then .ok (.token (some token))
  else .error (.loginRefused msg)

/-- Holds of the payload of a login's acknowledgement and what the login gives for it. -/
structure LoginAnswer (v : Json) (result : Except Error Answer) : Prop where
  readable : ∀ accepted msg required token, v.LoginReply accepted msg required token →
    result = loginResult accepted msg required token
  unreadable : (¬∃ accepted msg required token, v.LoginReply accepted msg required token) →
    ∃ fault, result = .error (.unreadableResponse "login" (.value fault))

variable {σ : Type} {a : Action} {e : Emitter σ} {c : Store.Contents} {x : σ} {raw : Json}
variable {username password : String} {token : Option String}

theorem loginAnswer_judge {v : Json} (hcarries : Reply.Carries raw v) (hv : v.WellFormed) :
    LoginAnswer v (((login username password token).judge raw).map Prod.fst) := by
  have hjudge : (login username password token).judge raw =
      ((Reply.ofJson Program.loginFields v).mapError fun fault =>
        .unreadableResponse "login" (.value fault)) >>=
          (login username password token).approve >>= (login username password token).settle :=
    judge_of_carries nofun hcarries
  rw [hjudge]
  refine ⟨fun accepted msg required given hreply => ?_, fun hreply => ?_⟩
  · obtain ⟨reply, hread, rfl, rfl, rfl, rfl⟩ := Reply.ofJson_of_loginReply hv hreply
    rw [hread]
    change ((login username password token).approve reply >>= _).map Prod.fst = _
    rw [approve, loginResult]
    split
    · rfl
    · split <;> rfl
  · obtain ⟨fault, hread⟩ := Reply.ofJson_of_not_loginReply hreply
    rw [hread]
    exact ⟨fault, rfl⟩

/-- A login without credentials waits for two events. -/
theorem login_unattended (hempty : username = "" ∧ password = "") :
    let run := (login username password token).program.carriedOut e ⟨⟨some c⟩, x, []⟩
    run.2.steps.filter Step.isRequest = [] ∧
      (run.1 = .ok (.token none) ↔ (e.await .connect ⟨some c⟩ x).1 = .ok () ∧
        (e.await .autoLogin ⟨some c⟩ (e.await .connect ⟨some c⟩ x).2).1 = .ok ()) := by
  obtain ⟨rfl, rfl⟩ := hempty
  cases hconnect : (e.await .connect ⟨some c⟩ x).1 with
  | error err =>
    rw [carriedOut_unconnected (a := login "" "" token) rfl hconnect]
    exact ⟨rfl, nofun, nofun⟩
  | ok =>
    rw [carriedOut_unattended (a := login "" "" token) rfl hconnect]
    cases (e.await .autoLogin ⟨some c⟩ (e.await .connect ⟨some c⟩ x).2).1 with
    | error err => exact ⟨rfl, nofun, nofun⟩
    | ok =>
      rw [Program.done_mapError_ok_bind, Change.carriedOut_commit_open]
      exact ⟨rfl, fun _ => ⟨rfl, rfl⟩, fun _ => rfl⟩

theorem attended_of_credentials (token : Option String) (hcredentials : ¬(username = "" ∧ password = "")) :
    (login username password token).isUnattended = false := by
  simpa [isUnattended] using hcredentials

/-- What a login comes to. Without credentials it sends nothing and waits for the server to log the session
in. Otherwise it sends one request once the connection stands, and its acknowledgement decides. The session
counts as logged in from then on just if the login has succeeded, and otherwise counts as what it did before. -/
theorem login_outcome (username password : String) (token : Option String) (e : Emitter σ)
    (c : Store.Contents) (x : σ) :
    let run := (login username password token).program.carriedOut e ⟨⟨some c⟩, x, []⟩
    let connected := e.await .connect ⟨some c⟩ x
    let announced := e.await .autoLogin ⟨some c⟩ connected.2
    let credentials := Json.ofMembers
      [("username", .string username), ("password", .string password), ("token", .string (token.getD ""))]
    let answer := (e.emit "login" [credentials] ⟨some c⟩ connected.2).1
    let requests := run.2.steps.filter Step.isRequest
    (username = "" ∧ password = "" →
      requests = [] ∧ (run.1 = .ok (.token none) ↔ connected.1 = .ok () ∧ announced.1 = .ok ())) ∧
    (¬(username = "" ∧ password = "") →
      (∀ err, connected.1 = .error err → requests = [] ∧ run.1 = .error (.awaitFailed .connect err)) ∧
      (connected.1 = .ok () →
        requests = [.emitted "login" [credentials] answer] ∧
        (∀ err, answer = .error err → run.1 = .error (.emitFailed "login" err)) ∧
        (∀ raw v, answer = .ok raw → raw.WellFormed → Reply.Carries raw v → LoginAnswer v run.1) ∧
        ∀ text, answer = .ok (.array [.string text]) → Json.read? text = none →
          run.1 = .error (.unreadableResponse "login" .malformed))) ∧
    (∀ given, run.1 = .ok given → run.2.store = ⟨some { c with loggedIn := true }⟩) ∧
    ∀ err, run.1 = .error err → run.2.store = ⟨some c⟩ := by
  intro run connected announced credentials answer requests
  have hends := (login username password token).ends e ⟨some c⟩ x
  refine ⟨login_unattended, fun hcredentials => ⟨fun err hunconnected => ?_, fun hconnect => ?_⟩,
    fun given hgiven => ?_, fun err hfailed => ?_⟩
  · have hrun := carriedOut_unconnected (a := login username password token) rfl hunconnected
    exact ⟨congrArg (fun run => run.2.steps.filter Step.isRequest) hrun, congrArg Prod.fst hrun⟩
  · have hattended := attended_of_credentials token hcredentials
    have hacknowledges {raw : Json} (hanswer : answer = .ok raw) :
        e.Acknowledges (login username password token) ⟨some c⟩ x raw := ⟨hconnect, hanswer⟩
    have hunsent {err : Error} (hanswer : answer = .error err) :=
      carriedOut_unsent (a := login username password token) rfl hattended hconnect hanswer
    refine ⟨?_, fun err hanswer => (hunsent hanswer).1, ?_, ?_⟩
    · cases hanswer : answer with
      | error err =>
        simp only [requests, run, (hunsent hanswer).2]
        rfl
      | ok raw => exact (result_of_acknowledged rfl hattended (hacknowledges hanswer)).2
    · intro raw v hanswer hraw hcarries
      have hresult := (result_of_acknowledged rfl hattended (hacknowledges hanswer)).1
      rw [hresult]
      exact loginAnswer_judge hcarries (hcarries.wellFormed hraw)
    · intro text hanswer hread
      have hresult := (result_of_acknowledged rfl hattended (hacknowledges hanswer)).1
      have hjudge : (login username password token).judge (.array [.string text]) =
          .error (.unreadableResponse "login" .malformed) :=
        judge_of_payload_error nofun (Reply.payload_malformed "login" hread)
      rw [hresult, hjudge]
      rfl
  · rw [Ends, hgiven] at hends
    obtain ⟨after, hstore, hafter⟩ := hends.footprint
    have hloggedIn : after = { c with loggedIn := true } := hafter
    rw [← hloggedIn]
    exact hstore
  · rw [Ends, hfailed] at hends
    exact hends.store_of_error

/-- A login that is accepted counts for nothing as long as a second factor is asked for: the session counts as
what it did before. -/
theorem login_asks_for_second_factor :
    let reply := Json.object [("ok", .bool true), ("tokenRequired", .string " T ")]
    let run := (login "admin" "pw" none).program.carriedOut (.acknowledging (.array [reply]))
      ⟨⟨some { loggedIn := true }⟩, (), []⟩
    run.1 = .error .tokenRequired ∧ run.2.store = ⟨some { loggedIn := true }⟩ := by
  intro reply run
  have hrequired : (Json.string " T ").looseFlag = .ok true := Except.toOption_eq_some.mp (by decide +kernel)
  have hreply : reply.LoginReply true "" true "" := ⟨⟨_, rfl⟩, rfl, rfl, hrequired, rfl⟩
  have hobject : reply.WellFormed := by
    refine .object (by decide +kernel) ?_
    simp only [List.forall_mem_cons]
    exact ⟨.bool true, .string " T ", nofun⟩
  have hwellFormed : (Json.array [reply]).WellFormed := .array (List.forall_mem_singleton.mpr hobject)
  obtain ⟨-, hcredentials, -, hkept⟩ := login_outcome "admin" "pw" none (.acknowledging (.array [reply]))
    { loggedIn := true } ()
  obtain ⟨-, -, hanswers, -⟩ := (hcredentials (by decide)).2 rfl
  have hresult := (hanswers _ reply rfl hwellFormed (.direct nofun)).readable _ _ _ _ hreply
  exact ⟨hresult, hkept _ hresult⟩

end Action
end UptimeSync
