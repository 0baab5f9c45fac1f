import UptimeSync.Proofs.Action.Change

namespace UptimeSync.Program

open Course

variable {α β τ : Type}

/-- Holds of a program, the steps that it may take and the result that it has after them. The outcome of a wait
or a request is free; the store may be another one at every access. -/
inductive Takes : Program α → List Step → Except Error α → Prop where
  | done (result : Except Error α) : Takes (done result) [] result
  | await {kind : EventKind} {next : Except Error Unit → Program α} {answer : Except Error Unit}
      {steps : List Step} {result : Except Error α} (hnext : Takes (next answer) steps result) :
      Takes (await kind next) (.awaited kind answer :: steps) result
  | emit {action : String} {args : List Json} {next : Except Error Json → Program α}
      {answer : Except Error Json} {steps : List Step} {result : Except Error α}
      (hnext : Takes (next answer) steps result) :
      Takes (emit action args next) (.emitted action args answer :: steps) result
  | access {op : Access Unit} {next : Except Error Unit → Program α} {s : Store} {steps : List Step}
      {result : Except Error α} (hnext : Takes (next (op.on s).1) steps result) :
      Takes (access op next) (.accessed :: steps) result

/-- Two programs take the steps of the first and, unless it fails, those of the second. -/
theorem Takes.of_bind {p : Program α} {f : α → Program β} {steps : List Step} {result : Except Error β}
    (htakes : (p >>= f).Takes steps result) :
    (∃ e, result = .error e ∧ p.Takes steps (.error e)) ∨
      ∃ a first later, steps = first ++ later ∧ p.Takes first (.ok a) ∧ (f a).Takes later result := by
  change (p.bind f).Takes steps result at htakes
  -- Each step of the first program comes off, and what is left of it still goes before the second one.
  induction p generalizing steps with
  | done ended =>
    cases ended with
    | ok a => exact .inr ⟨a, [], steps, rfl, .done _, htakes⟩
    | error e =>
      cases htakes
      exact .inl ⟨e, rfl, .done _⟩
  | await kind next ih =>
    cases htakes with
    | await hnext =>
      obtain ⟨e, hresult, hfailed⟩ | ⟨a, first, later, rfl, hfirst, hlater⟩ := ih _ hnext
      · exact .inl ⟨e, hresult, .await hfailed⟩
      · exact .inr ⟨a, _, later, rfl, .await hfirst, hlater⟩
  | emit action args next ih =>
    cases htakes with
    | emit hnext =>
      obtain ⟨e, hresult, hfailed⟩ | ⟨a, first, later, rfl, hfirst, hlater⟩ := ih _ hnext
      · exact .inl ⟨e, hresult, .emit hfailed⟩
      · exact .inr ⟨a, _, later, rfl, .emit hfirst, hlater⟩
  | access op next ih =>
    cases htakes with
    | access hnext =>
      obtain ⟨e, hresult, hfailed⟩ | ⟨a, first, later, rfl, hfirst, hlater⟩ := ih _ hnext
      · exact .inl ⟨e, hresult, .access hfailed⟩
      · exact .inr ⟨a, _, later, rfl, .access hfirst, hlater⟩

namespace Host

/-- Holds of a host each of whose accesses answers what the operation does on some store. -/
def HasStore (host : Host (StateM τ)) : Prop :=
  ∀ (op : Access Unit) (t : τ), ∃ s : Store, ((host.access op).run t).1 = (op.on s).1

/-- A host that keeps a record of the steps. -/
def recording (host : Host (StateM τ)) : Host (StateM (τ × List Step)) where
  await kind := fun (t, before) =>
    let (answer, t) := (host.await kind).run t
    (answer, t, before ++ [.awaited kind answer])
  emit action args := fun (t, before) =>
    let (answer, t) := (host.emit action args).run t
    (answer, t, before ++ [.emitted action args answer])
  access op := fun (t, before) =>
    let (answer, t) := (host.access op).run t
    (answer, t, before ++ [.accessed])

end Host

/-- The steps that a host takes when it carries out a program. -/
def steps (p : Program α) (host : Host (StateM τ)) (t : τ) : List Step :=
  ((p.run host.recording).run (t, [])).2.2

variable {host : Host (StateM τ)}

/-- That the steps are kept makes no other difference. -/
theorem run_recording (p : Program α) (host : Host (StateM τ)) (t : τ) (before : List Step) :
    let kept := (p.run host.recording).run (t, before)
    (kept.1, kept.2.1) = (p.run host).run t := by
  induction p generalizing t before with
  | done result => rfl
  | await kind next ih => exact ih _ _ _
  | emit action args next ih => exact ih _ _ _
  | access op next ih => exact ih _ _ _

theorem takes_recording (hstore : host.HasStore) (p : Program α) (t : τ) (before : List Step) :
    let kept := (p.run host.recording).run (t, before)
    ∃ taken, kept.2.2 = before ++ taken ∧ p.Takes taken kept.1 := by
  induction p generalizing t before with
  | done result => exact ⟨[], (List.append_nil before).symm, .done result⟩
  | await kind next ih =>
    obtain ⟨taken, hsteps, htaken⟩ := ih _ _ (before ++ [.awaited kind ((host.await kind).run t).1])
    exact ⟨_, hsteps.trans (List.append_assoc _ _ _), .await htaken⟩
  | emit action args next ih =>
    obtain ⟨taken, hsteps, htaken⟩ :=
      ih _ _ (before ++ [.emitted action args ((host.emit action args).run t).1])
    exact ⟨_, hsteps.trans (List.append_assoc _ _ _), .emit htaken⟩
  | access op next ih =>
    obtain ⟨s, hs⟩ := hstore op t
    let answered := (host.access op).run t
    obtain ⟨taken, hsteps, htaken⟩ := ih answered.1 answered.2 (before ++ [.accessed])
    refine ⟨_, hsteps.trans (List.append_assoc _ _ _), .access (s := s) ?_⟩
    rw [← hs]
    exact htaken

/-- What a host makes of a program is one of the ways in which it can go. -/
theorem takes_run (hstore : host.HasStore) (p : Program α) (t : τ) :
    p.Takes (p.steps host t) ((p.run host).run t).1 := by
  obtain ⟨taken, hsteps, htaken⟩ := takes_recording hstore p t []
  rw [List.nil_append] at hsteps
  rw [steps, hsteps, ← congrArg Prod.fst (p.run_recording host t [])]
  exact htaken

end UptimeSync.Program
