import CallSnapshot.Outside
import CallSnapshot.Proofs.Acting

/-! What work on the files and on what lies outside of them ends with. -/

namespace CallSnapshot.Reaching

variable {α β : Type} {c : Reaching α} {s t : Setting}

def Ends (c : Reaching α) (s : Setting) (Q : Except Fault α → Setting → Prop) : Prop :=
  Q (c.run.run s).1 (c.run.run s).2

def Does (c : Reaching α) (s : Setting) (Q : α → Setting → Prop) : Prop :=
  Ends c s fun r t => ∃ a, r = .ok a ∧ Q a t

lemma run_bind (c : Reaching α) (f : α → Reaching β) (s : Setting) :
    (c >>= f).run.run s = match c.run.run s with
      | (.ok a, t) => (f a).run.run t
      | (.error e, t) => (.error e, t) := by
  simp only [ExceptT.run_bind, StateT.run_bind]
  rcases StateT.run (ExceptT.run c) s with ⟨e | a, t⟩ <;> rfl

lemma run_modify (f : Setting → Setting) (s : Setting) :
    (modifyThe Setting f : Reaching Unit).run.run s = (.ok (), f s) := rfl

lemma run_get (s : Setting) : (getThe Setting : Reaching Setting).run.run s = (.ok s, s) := rfl

lemma Ends.mono {Q R : Except Fault α → Setting → Prop} (h : Ends c s Q) (hQ : ∀ r t, Q r t → R r t) :
    Ends c s R := hQ _ _ h

lemma Does.mono {Q R : α → Setting → Prop} (h : Does c s Q) (hQ : ∀ a t, Q a t → R a t) : Does c s R :=
  Ends.mono h fun _ t ⟨a, hr, ha⟩ => ⟨a, hr, hQ a t ha⟩

lemma Ends.bind {f : α → Reaching β} {Q : Except Fault α → Setting → Prop}
    {R : Except Fault β → Setting → Prop} (h : Ends c s Q) (hok : ∀ a t, Q (.ok a) t → Ends (f a) t R)
    (herror : ∀ e t, Q (.error e) t → R (.error e) t) : Ends (c >>= f) s R := by
  unfold Ends at h ⊢
  rw [run_bind]
  rcases hr : c.run.run s with ⟨e | a, t⟩
  · rw [hr] at h
    exact herror e t h
  · rw [hr] at h
    exact hok a t h

lemma Does.ends_bind {f : α → Reaching β} {Q : α → Setting → Prop} {R : Except Fault β → Setting → Prop}
    (h : Does c s Q) (hf : ∀ a t, Q a t → Ends (f a) t R) : Ends (c >>= f) s R := by
  refine Ends.bind h ?_ ?_
  · rintro a t ⟨_, ⟨⟩, ha⟩
    exact hf a t ha
  · rintro e t ⟨_, ⟨⟩, -⟩

lemma Does.bind {f : α → Reaching β} {Q : α → Setting → Prop} {R : β → Setting → Prop} (h : Does c s Q)
    (hf : ∀ a t, Q a t → Does (f a) t R) : Does (c >>= f) s R := h.ends_bind hf

lemma ends_pure {a : α} {Q : Except Fault α → Setting → Prop} (h : Q (.ok a) s) : Ends (pure a) s Q := h

lemma does_pure {a : α} {Q : α → Setting → Prop} (h : Q a s) : Does (pure a) s Q := ⟨a, rfl, h⟩

lemma ends_lift {c : Acting α} {Q : Except Fault α → Files → Prop} (h : Acting.Ends c s.scene.files Q) :
    Ends (liftM c) s fun r t => t.outside = s.outside ∧ Q r t.scene.files := ⟨rfl, h s.scene rfl⟩

lemma does_lift {c : Acting α} {Q : α → Files → Prop} (h : Acting.Does c s.scene.files Q) :
    Does (liftM c) s fun a t => t.outside = s.outside ∧ Q a t.scene.files := by
  obtain ⟨a, hr, ha⟩ := h s.scene rfl
  exact ⟨a, hr, rfl, ha⟩

/-! Work that changes no files, and only makes requests. -/

def IsRequest : Asking → Prop
  | .request .. => True
  | _ => False

/-- The same files and processes; requests may have been made. -/
structure Calm (s t : Setting) : Prop where
  files : t.scene.files = s.scene.files
  processes : t.outside.processes = s.outside.processes
  launched : t.outside.launched = s.outside.launched
  asked : ∃ new, t.outside.asked = s.outside.asked ++ new ∧ ∀ a ∈ new, IsRequest a

lemma Calm.refl (s : Setting) : Calm s s := ⟨rfl, rfl, rfl, [], (List.append_nil _).symm, by simp⟩

lemma Calm.trans {s t u : Setting} (h : Calm s t) (h' : Calm t u) : Calm s u := by
  obtain ⟨new, hnew, hall⟩ := h.asked
  obtain ⟨new', hnew', hall'⟩ := h'.asked
  refine ⟨h'.files.trans h.files, h'.processes.trans h.processes, h'.launched.trans h.launched,
    new ++ new', ?_, ?_⟩
  · rw [hnew', hnew, List.append_assoc]
  · simp only [List.mem_append]
    exact fun a ha => ha.elim (hall a) (hall' a)

lemma Calm.state {s t : Setting} (h : Calm s t) (pid : ℤ) :
    t.outside.stateOf pid = s.outside.stateOf pid := by
  simp only [Outside.stateOf, h.processes]

/-- The same files, and the same answers of what lies outside; there may be more notes. -/
structure Same (s t : Setting) : Prop where
  files : t.scene.files = s.scene.files
  outside : t.outside = s.outside

lemma Same.refl (s : Setting) : Same s s := ⟨rfl, rfl⟩

lemma Same.trans {s t u : Setting} (h : Same s t) (h' : Same t u) : Same s u :=
  ⟨h'.files.trans h.files, h'.outside.trans h.outside⟩

lemma Same.calm {s t : Setting} (h : Same s t) : Calm s t :=
  ⟨h.files, by rw [h.outside], by rw [h.outside], [], by rw [h.outside, List.append_nil], by simp⟩

/-- Whatever comes of it, the work is of that kind. -/
def Calmly (c : Reaching α) (s : Setting) : Prop := Ends c s fun _ t => Calm s t

lemma Calmly.bind {f : α → Reaching β} (h : Calmly c s) (hf : ∀ a t, Calm s t → Calmly (f a) t) :
    Calmly (c >>= f) s :=
  Ends.bind h (fun a t ht => (hf a t ht).mono fun _ _ => ht.trans) fun _ _ => id

lemma Does.calmly {Q : α → Setting → Prop} (h : Does c s Q) (hQ : ∀ a t, Q a t → Calm s t) : Calmly c s :=
  Ends.mono h fun _ t ⟨a, _, ha⟩ => hQ a t ha

lemma calmly_pure (a : α) : Calmly (pure a) s := Calm.refl s

lemma calmly_throw (f : Fault) : Calmly (throw f : Reaching α) s := Calm.refl s

lemma does_note (n : Note) : Does (note n) s fun _ t => Same s t := by
  obtain ⟨a, hr, ha⟩ := Acting.does_note n (Q := fun _ gs => gs = s.scene.files) rfl s.scene rfl
  exact ⟨a, hr, ha, rfl⟩

lemma does_sleep (seconds : Binary64) : Does (sleep seconds) s fun _ t => Calm s t :=
  ⟨(), rfl, rfl, rfl, rfl, [], (List.append_nil _).symm, by simp⟩

lemma does_clock : Does clock s fun _ t => t = s := ⟨_, rfl, rfl⟩

lemma does_signal (pid : ℤ) (number : ℕ) : Does (signal pid number) s fun a t =>
    a = s.outside.stateOf pid ∧ t = { s with outside := { s.outside with
      asked := s.outside.asked ++ [.signal pid number] } } := ⟨_, rfl, rfl, rfl⟩

lemma does_outcome {Q : Except Fault α → Setting → Prop} (h : Ends c s Q) : Does (outcome c) s Q :=
  ⟨_, rfl, h⟩

lemma ends_throw {f : Fault} {Q : Except Fault α → Setting → Prop} (h : Q (.error f) s) :
    Ends (throw f : Reaching α) s Q := h

lemma ends_request (method host path : String) (timeout : Binary64) :
    Ends (request method host path timeout) s fun r t => Calm s t ∧ ∀ f, r = .error f →
      f.kind.isUnreachable = true ∨ (f.kind = .interrupt ∧
        (Outside.takeAnswer (method ++ " " ++ path) s.outside.answers).1 = .interrupted) := by
  have hcalm : Calm s { s with outside := { s.outside with
      asked := s.outside.asked ++ [.request method (host ++ path) timeout]
      answers := (Outside.takeAnswer (method ++ " " ++ path) s.outside.answers).2 } } :=
    ⟨rfl, rfl, rfl, _, rfl, by simp [IsRequest]⟩
  unfold Ends request ask
  simp only [run_bind, run_modify, run_get]
  cases (Outside.takeAnswer (method ++ " " ++ path) s.outside.answers).1 with
  | refused =>
    refine ⟨hcalm, ?_⟩
    rintro _ ⟨⟩
    exact .inl rfl
  | interrupted =>
    refine ⟨hcalm, ?_⟩
    rintro _ ⟨⟩
    exact .inr ⟨rfl, rfl⟩
  | reply status text => exact ⟨hcalm, nofun⟩

/-! Work that starts no process. -/

def IsSpawn : Asking → Prop
  | .spawn .. => True
  | _ => False

instance : DecidablePred IsSpawn
  | .spawn .. => isTrue trivial
  | .signal .. => isFalse id
  | .request .. => isFalse id

/-- No process was started meanwhile. -/
structure Quiet (s t : Setting) : Prop where
  launched : t.outside.launched = s.outside.launched
  asked : ∃ new, t.outside.asked = s.outside.asked ++ new ∧ ∀ a ∈ new, ¬ IsSpawn a

lemma Quiet.of_eq {s t : Setting} (h : t.outside = s.outside) : Quiet s t :=
  ⟨congrArg _ h, [], by rw [h, List.append_nil], by simp⟩

lemma Quiet.refl (s : Setting) : Quiet s s := .of_eq rfl

lemma Quiet.trans {s t u : Setting} (h : Quiet s t) (h' : Quiet t u) : Quiet s u := by
  obtain ⟨new, hnew, hall⟩ := h.asked
  obtain ⟨new', hnew', hall'⟩ := h'.asked
  refine ⟨h'.launched.trans h.launched, new ++ new', ?_, ?_⟩
  · rw [hnew', hnew, List.append_assoc]
  · simp only [List.mem_append]
    exact fun a ha => ha.elim (hall a) (hall' a)

lemma Calm.quiet {s t : Setting} (h : Calm s t) : Quiet s t := by
  obtain ⟨new, hnew, hall⟩ := h.asked
  refine ⟨h.launched, new, hnew, fun a ha => ?_⟩
  have := hall a ha
  cases a <;> simp_all [IsRequest, IsSpawn]

lemma Quiet.mem_asked {s t : Setting} (h : Quiet s t) {a : Asking} (ha : a ∈ s.outside.asked) :
    a ∈ t.outside.asked := by
  obtain ⟨new, hnew, -⟩ := h.asked
  rw [hnew]
  exact List.mem_append_left _ ha

def starts (o : Outside) : ℕ := o.asked.countP fun a => IsSpawn a

lemma Quiet.starts {s t : Setting} (h : Quiet s t) : starts t.outside = starts s.outside := by
  obtain ⟨new, hnew, hall⟩ := h.asked
  have hzero : new.countP (fun a => IsSpawn a) = 0 := by simpa [List.countP_eq_zero] using hall
  rw [Reaching.starts, hnew, List.countP_append, hzero, Nat.add_zero, Reaching.starts]

/-- Whatever comes of it, no process is started. -/
def Quietly (c : Reaching α) (s : Setting) : Prop := Ends c s fun _ t => Quiet s t

lemma Quietly.bind {f : α → Reaching β} (h : Quietly c s) (hf : ∀ a t, Quietly (f a) t) :
    Quietly (c >>= f) s :=
  Ends.bind h (fun a t ht => (hf a t).mono fun _ _ => ht.trans) fun _ _ => id

lemma Calmly.quietly (h : Calmly c s) : Quietly c s := h.mono fun _ _ ht => ht.quiet

lemma quietly_pure (a : α) : Quietly (pure a) s := Quiet.refl s

lemma quietly_throw (f : Fault) : Quietly (throw f : Reaching α) s := Quiet.refl s

lemma quietly_lift (c : Acting α) : Quietly (liftM c) s := Quiet.of_eq rfl

lemma quietly_note (n : Note) : Quietly (note n) s :=
  Ends.mono (does_note n) fun _ _ ⟨_, _, h⟩ => h.calm.quiet

lemma quietly_signal (pid : ℤ) (number : ℕ) : Quietly (signal pid number) s :=
  ⟨rfl, _, rfl, by simp [IsSpawn]⟩

end CallSnapshot.Reaching
