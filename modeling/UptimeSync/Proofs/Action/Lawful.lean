import UptimeSync.Action.Program

namespace UptimeSync.Program

variable {α β γ : Type}

@[simp] theorem done_ok_bind (a : α) (f : α → Program β) : done (.ok a) >>= f = f a := rfl

@[simp] theorem done_mapError_ok_bind (a : α) (wrap : Error → Error) (f : α → Program β) :
    done ((Except.ok a).mapError wrap) >>= f = f a := rfl

theorem bind_done (p : Program α) : p >>= (fun a => done (.ok a)) = p := by
  change p.bind _ = p
  induction p with
  | done result => cases result <;> rfl
  | await kind next ih => exact congrArg (await kind) (funext ih)
  | emit action args next ih => exact congrArg (emit action args) (funext ih)
  | access op next ih => exact congrArg (access op) (funext ih)

/-- Only the order of the steps counts, not how they are grouped into programs. -/
instance : LawfulMonad Program := LawfulMonad.mk' Program
  (fun p => bind_done p)
  (fun _ _ => rfl)
  (fun p f g => by
    change (p.bind f).bind g = p.bind fun a => (f a).bind g
    induction p with
    | done result => cases result <;> rfl
    | await kind next ih => exact congrArg (await kind) (funext ih)
    | emit action args next ih => exact congrArg (emit action args) (funext ih)
    | access op next ih => exact congrArg (access op) (funext ih))

theorem done_bind (x : Except Error α) (f : α → Except Error β) :
    done (x >>= f) = done x >>= fun a => done (f a) := by
  cases x <;> rfl

theorem done_map (x : Except Error α) (f : α → β) :
    done (x.map f) = done x >>= fun a => done (.ok (f a)) := by
  cases x <;> rfl

end UptimeSync.Program
