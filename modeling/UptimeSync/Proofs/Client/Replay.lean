import Mathlib.Algebra.Group.Nat.Defs
import Mathlib.Data.List.DropRight
import Mathlib.Data.List.Induction
import UptimeSync.Client.Builder

namespace UptimeSync

/-- A duration is kept as the whole milliseconds in it, or as the most that fit into 64 bits. -/
theorem Duration.toNat_clampedMillis (d : Duration) :
    d.clampedMillis.toNat = min (d.nanos / 1000000) (2 ^ 64 - 1) := by
  have hsize : UInt64.size = 2 ^ 64 := rfl
  have hfits : min d.millis (UInt64.size - 1) < UInt64.size := by omega
  rw [clampedMillis, UInt64.toNat_ofNat_of_lt' hfits, millis, hsize]

namespace Builder

namespace Call

def emitTimeout? : Call → Option Duration
  | emitTimeout d => some d
  | _ => none

def awaitTimeout? : Call → Option Duration
  | awaitTimeout d => some d
  | _ => none

def pollInterval? : Call → Option Duration
  | pollInterval d => some d
  | _ => none

def retention? : Call → Option Retention
  | retention r => some r
  | _ => none

def credentials? : Call → Option Credentials
  | credentials c => some c
  | _ => none

def config? : Call → Option Config
  | config c => some c
  | _ => none

end Call

/-- What the last of the calls brings that bring something of a kind. -/
def last? {α : Type} (brought? : Call → Option α) (calls : List Call) : Option α :=
  (calls.filterMap brought?).getLast?

/-- The configuration that was set as a whole, or else the default one. -/
def base (calls : List Call) : Config := (last? Call.config? calls).getD {}

/-- The calls after the last one that set the configuration as a whole. -/
def recent (calls : List Call) : List Call := calls.rtakeWhile fun call => call.config?.isNone

/-- The configuration after some calls: every setting is what the last call for it says since the configuration
was set as a whole. -/
def replayed (calls : List Call) : Config where
  connection := (base calls).connection
  timeouts :=
    { emitMs := (last? Call.emitTimeout? (recent calls)).elim (base calls).timeouts.emitMs Duration.clampedMillis
      awaitMs := (last? Call.awaitTimeout? (recent calls)).elim (base calls).timeouts.awaitMs Duration.clampedMillis
      pollMs := (last? Call.pollInterval? (recent calls)).elim (base calls).timeouts.pollMs Duration.clampedMillis }
  retention := (last? Call.retention? (recent calls)).getD (base calls).retention
  credentials := (last? Call.credentials? (recent calls)).getD (base calls).credentials

theorem recent_concat (earlier : List Call) (call : Call) :
    recent (earlier ++ [call]) = if call.config?.isNone then recent earlier ++ [call] else [] :=
  List.rtakeWhile_concat _ _ call

theorem replayed_concat (earlier : List Call) (call : Call) :
    replayed (earlier ++ [call]) = call.apply (replayed earlier) := by
  cases call <;>
    simp [replayed, base, recent_concat, last?, Call.apply, Call.config?, Call.emitTimeout?,
      Call.awaitTimeout?, Call.pollInterval?, Call.retention?, Call.credentials?]

theorem configOf_eq_replayed (calls : List Call) : configOf calls = replayed calls := by
  induction calls using List.reverseRecOn with
  | nil => rfl
  | append_singleton earlier call ih =>
    rw [replayed_concat, ← ih, configOf, List.foldl_append]
    rfl

end Builder
end UptimeSync
