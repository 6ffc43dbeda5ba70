import CallSnapshot.Proofs.Steps
import CallSnapshot.Scene

/-! What a piece of work on the files ends with, whatever notes it leaves. -/

namespace CallSnapshot.Acting

variable {α β : Type} {c : Acting α} {fs : Files}

/-- Started on these files, the work ends with such an outcome and such files. -/
def Ends (c : Acting α) (fs : Files) (Q : Except Fault α → Files → Prop) : Prop :=
  ∀ s : Scene, s.files = fs → Q (c.run.run s).1 (c.run.run s).2.files

def Does (c : Acting α) (fs : Files) (Q : α → Files → Prop) : Prop :=
  Ends c fs fun r gs => ∃ a, r = .ok a ∧ Q a gs

lemma run_bind (c : Acting α) (f : α → Acting β) (s : Scene) :
    (c >>= f).run.run s = match c.run.run s with
      | (.ok a, t) => (f a).run.run t
      | (.error e, t) => (.error e, t) := by
  simp only [ExceptT.run_bind, StateT.run_bind]
  rcases StateT.run (ExceptT.run c) s with ⟨e | a, t⟩ <;> rfl

lemma Ends.mono {Q R : Except Fault α → Files → Prop} (h : Ends c fs Q)
    (hQ : ∀ r gs, Q r gs → R r gs) : Ends c fs R := fun s hs => hQ _ _ (h s hs)

lemma Ends.and {Q R : Except Fault α → Files → Prop} (h : Ends c fs Q) (h' : Ends c fs R) :
    Ends c fs fun r gs => Q r gs ∧ R r gs := fun s hs => ⟨h s hs, h' s hs⟩

lemma Does.mono {Q R : α → Files → Prop} (h : Does c fs Q) (hQ : ∀ a gs, Q a gs → R a gs) :
    Does c fs R := Ends.mono h fun _ gs ⟨a, hr, ha⟩ => ⟨a, hr, hQ a gs ha⟩

lemma Ends.bind {f : α → Acting β} {Q : Except Fault α → Files → Prop}
    {R : Except Fault β → Files → Prop} (h : Ends c fs Q)
    (hok : ∀ a gs, Q (.ok a) gs → Ends (f a) gs R)
    (herror : ∀ e gs, Q (.error e) gs → R (.error e) gs) : Ends (c >>= f) fs R := by
  intro s hs
  have hc := h s hs
  rw [run_bind]
  rcases hr : c.run.run s with ⟨e | a, t⟩
  · rw [hr] at hc
    exact herror e _ hc
  · rw [hr] at hc
    exact hok a _ hc t rfl

lemma Does.bind {f : α → Acting β} {Q : α → Files → Prop} {R : β → Files → Prop}
    (h : Does c fs Q) (hf : ∀ a gs, Q a gs → Does (f a) gs R) : Does (c >>= f) fs R := by
  refine Ends.bind h ?_ ?_
  · rintro a gs ⟨_, ⟨⟩, ha⟩
    exact hf a gs ha
  · rintro e gs ⟨_, ⟨⟩, -⟩

lemma Does.ends_bind {f : α → Acting β} {Q : α → Files → Prop} {R : Except Fault β → Files → Prop}
    (h : Does c fs Q) (hf : ∀ a gs, Q a gs → Ends (f a) gs R) : Ends (c >>= f) fs R := by
  refine Ends.bind h ?_ ?_
  · rintro a gs ⟨_, ⟨⟩, ha⟩
    exact hf a gs ha
  · rintro e gs ⟨_, ⟨⟩, -⟩

lemma ends_pure {a : α} {Q : Except Fault α → Files → Prop} (h : Q (.ok a) fs) : Ends (pure a) fs Q := by
  rintro s rfl
  exact h

lemma does_pure {a : α} {Q : α → Files → Prop} (h : Q a fs) : Does (pure a) fs Q := by
  rintro s rfl
  exact ⟨a, rfl, h⟩

lemma does_note (n : Note) {Q : Unit → Files → Prop} (h : Q () fs) : Does (note n) fs Q := by
  rintro s rfl
  refine ⟨(), rfl, ?_⟩
  change Q () (s.add n).files
  unfold Scene.add
  split <;> exact h

lemma does_files {Q : Files → Files → Prop} (h : Q fs fs) : Does files fs Q := by
  rintro s rfl
  exact ⟨s.files, rfl, h⟩

lemma does_modify {gs : Files} {Q : Unit → Files → Prop} (h : Q () gs) :
    Does (modify fun s => { s with files := gs }) fs Q := by
  rintro s rfl
  exact ⟨(), rfl, h⟩

lemma run_files (s : Scene) : (files.run.run s) = (.ok s.files, s) := rfl

lemma run_pure (a : α) (s : Scene) : (pure a : Acting α).run.run s = (.ok a, s) := rfl

lemma does_change {p : Path} {op : Files → Except FileError Files} {gs : Files}
    {Q : Unit → Files → Prop} (hop : op fs = .ok gs) (h : Q () gs) : Does (change p op) fs Q := by
  rintro s rfl
  simp only [change, run_bind, run_files, hop]
  exact ⟨(), rfl, h⟩

lemma does_ask {p : Path} {op : Files → Except FileError α} {a : α} {Q : α → Files → Prop}
    (hop : op fs = .ok a) (h : Q a fs) : Does (ask p op) fs Q := by
  rintro s rfl
  simp only [ask, run_bind, run_files, hop]
  exact ⟨a, rfl, h⟩

section Bind

variable {gs : Files} {p : Path} {a : α} {Q : β → Files → Prop}

lemma does_files_bind {f : Files → Acting β} (h : Does (f fs) fs Q) : Does (files >>= f) fs Q := by
  refine (does_files (Q := fun a gs => a = fs ∧ gs = fs) ⟨rfl, rfl⟩).bind ?_
  intro _ _ ⟨ha, hg⟩
  rw [ha, hg]
  exact h

lemma does_change_bind {op : Files → Except FileError Files} {f : Unit → Acting β}
    (hop : op fs = .ok gs) (h : Does (f ()) gs Q) : Does (change p op >>= f) fs Q := by
  refine (does_change (Q := fun _ hs => hs = gs) hop rfl).bind ?_
  intro _ _ hg
  rw [hg]
  exact h

lemma does_ask_bind {op : Files → Except FileError α} {f : α → Acting β} (hop : op fs = .ok a)
    (h : Does (f a) fs Q) : Does (ask p op >>= f) fs Q := by
  refine (does_ask (Q := fun b gs => b = a ∧ gs = fs) hop ⟨rfl, rfl⟩).bind ?_
  intro _ _ ⟨ha, hg⟩
  rw [ha, hg]
  exact h

lemma does_note_bind (n : Note) {f : Unit → Acting β} (h : Does (f ()) fs Q) :
    Does (note n >>= f) fs Q := by
  refine (does_note n (Q := fun _ gs => gs = fs) rfl).bind ?_
  intro _ _ hg
  rw [hg]
  exact h

lemma does_ite_note (c : Prop) [Decidable c] (n : Note) {w : Acting β} (h : Does w fs Q) :
    Does (if c then note n >>= fun _ => w else w) fs Q := by
  split
  · exact does_note_bind n h
  · exact h

end Bind

lemma ends_settle (r : Except Fault α) {Q : Except Fault α → Files → Prop} (h : Q r fs) :
    Ends (settle r) fs Q := by
  rintro s rfl
  cases r <;> exact h

lemma ends_settle_bind {r : Except Fault α} {f : α → Acting β} {R : Except Fault β → Files → Prop}
    (hok : ∀ a, r = .ok a → Ends (f a) fs R) (herror : ∀ e, r = .error e → R (.error e) fs) :
    Ends (settle r >>= f) fs R := by
  refine (ends_settle r (Q := fun r' gs => r' = r ∧ gs = fs) ⟨rfl, rfl⟩).bind ?_ ?_
  · rintro a _ ⟨ha, rfl⟩
    exact hok a ha.symm
  · rintro e _ ⟨he, rfl⟩
    exact herror e he.symm

lemma does_settle {a : α} {Q : α → Files → Prop} (h : Q a fs) : Does (settle (.ok a)) fs Q := by
  rintro s rfl
  exact ⟨a, rfl, h⟩

lemma ends_files_bind {f : Files → Acting β} {R : Except Fault β → Files → Prop} (h : Ends (f fs) fs R) :
    Ends (files >>= f) fs R := by
  refine (does_files (Q := fun a gs => a = fs ∧ gs = fs) ⟨rfl, rfl⟩).ends_bind ?_
  rintro _ _ ⟨rfl, rfl⟩
  exact h

lemma ends_ask {p : Path} {op : Files → Except FileError α} {Q : Except Fault α → Files → Prop}
    (hok : ∀ a, op fs = .ok a → Q (.ok a) fs) (herror : ∀ f, Q (.error f) fs) : Ends (ask p op) fs Q := by
  rintro s rfl
  simp only [ask, run_bind, run_files]
  cases hop : op s.files with
  | ok a => exact hok a hop
  | error e => exact herror _

lemma ends_change {p : Path} {op : Files → Except FileError Files} {Q : Except Fault Unit → Files → Prop}
    (hok : ∀ gs, op fs = .ok gs → Q (.ok ()) gs) (herror : ∀ f, Q (.error f) fs) :
    Ends (change p op) fs Q := by
  rintro s rfl
  simp only [change, run_bind, run_files]
  cases hop : op s.files with
  | ok gs => exact hok gs hop
  | error e => exact herror _

lemma ends_ask_fails {p : Path} {op : Files → Except FileError α} {e : FileError} (hop : op fs = .error e)
    (f : α → Acting β) : Ends (ask p op >>= f) fs fun r gs => gs = fs ∧ r = .error (e.fault p.text) := by
  rintro s rfl
  simp only [ask, run_bind, run_files, hop]
  exact ⟨rfl, rfl⟩

lemma ends_change_iff (p : Path) {op : Files → Except FileError Files} :
    Ends (change p op) fs fun r gs => (r = .ok () ∧ op fs = .ok gs) ∨
      ∃ e, op fs = .error e ∧ r = .error (e.fault p.text) ∧ gs = fs := by
  rintro s rfl
  simp only [change, run_bind, run_files]
  cases hop : op s.files with
  | ok gs => exact .inl ⟨rfl, rfl⟩
  | error e => exact .inr ⟨e, rfl, rfl, rfl⟩

lemma ends_ask_bind {p : Path} {op : Files → Except FileError α} {f : α → Acting β}
    {R : Except Fault β → Files → Prop} (hok : ∀ a, op fs = .ok a → Ends (f a) fs R)
    (herror : ∀ e, op fs = .error e → R (.error (e.fault p.text)) fs) : Ends (ask p op >>= f) fs R := by
  cases hop : op fs with
  | ok a =>
    refine (does_ask (Q := fun b gs => b = a ∧ gs = fs) hop ⟨rfl, rfl⟩).ends_bind ?_
    rintro _ _ ⟨rfl, rfl⟩
    exact hok _ hop
  | error e =>
    refine (ends_ask_fails hop f).mono ?_
    rintro _ _ ⟨rfl, rfl⟩
    exact herror e hop

lemma ends_change_bind {p : Path} {op : Files → Except FileError Files} {f : Unit → Acting β}
    {R : Except Fault β → Files → Prop} (hok : ∀ gs, op fs = .ok gs → Ends (f ()) gs R)
    (herror : ∀ e, op fs = .error e → R (.error (e.fault p.text)) fs) : Ends (change p op >>= f) fs R := by
  refine (ends_change_iff p).bind ?_ ?_
  · rintro ⟨⟩ gs (⟨-, hop⟩ | ⟨_, -, ⟨⟩, -⟩)
    exact hok gs hop
  · rintro _ gs (⟨⟨⟩, -⟩ | ⟨e, hop, ⟨⟩, rfl⟩)
    exact herror e hop

lemma does_outcome {Q : Except Fault α → Files → Prop} (h : Ends c fs Q) :
    Does (outcome c) fs Q := fun s hs => ⟨_, rfl, h s hs⟩

/-- Work on each of several things, one after another, up to the first that fails; `I` holds of those that
are done and of what came of them. -/
lemma ends_mapM {f : α → Acting β} {xs : List α} {I : List α → List β → Files → Prop}
    {E : Fault → Files → Prop} (h : ∀ pre x post bs gs, xs = pre ++ x :: post → I pre bs gs →
      Ends (f x) gs fun r hs => (∃ b, r = .ok b ∧ I (pre ++ [x]) (bs ++ [b]) hs) ∨ ∃ e, r = .error e ∧ E e hs)
    (h₀ : I [] [] fs) :
    Ends (xs.mapM f) fs fun r gs => (∃ bs, r = .ok bs ∧ I xs bs gs) ∨ ∃ e, r = .error e ∧ E e gs := by
  suffices hs : ∀ post pre bs gs, xs = pre ++ post → I pre bs gs → Ends (post.mapM f) gs fun r hs =>
      (∃ bs', r = .ok bs' ∧ I xs (bs ++ bs') hs) ∨ ∃ e, r = .error e ∧ E e hs from hs xs [] [] fs rfl h₀
  intro post
  induction post with
  | nil =>
    intro pre bs gs hx hI
    rw [List.append_nil] at hx
    rw [List.mapM_nil]
    refine ends_pure (.inl ⟨[], rfl, ?_⟩)
    rw [List.append_nil, hx]
    exact hI
  | cons x post ih =>
    intro pre bs gs hx hI
    rw [List.mapM_cons]
    refine (h pre x post bs gs hx hI).bind ?_ ?_
    · rintro b gs' (⟨_, ⟨⟩, hI'⟩ | ⟨_, ⟨⟩, -⟩)
      refine (ih (pre ++ [x]) (bs ++ [b]) gs' (by simpa using hx) hI').bind ?_ ?_
      · rintro bs' gs'' (⟨_, ⟨⟩, hI''⟩ | ⟨_, ⟨⟩, -⟩)
        exact ends_pure (.inl ⟨b :: bs', rfl, by simpa using hI''⟩)
      · rintro e gs'' (⟨_, ⟨⟩, -⟩ | ⟨_, ⟨⟩, he⟩)
        exact .inr ⟨e, rfl, he⟩
    · rintro e gs' (⟨_, ⟨⟩, -⟩ | ⟨_, ⟨⟩, he⟩)
      exact .inr ⟨e, rfl, he⟩

lemma does_mapM {f : α → Acting β} {xs : List α} {I : List α → List β → Files → Prop}
    (h : ∀ pre x post bs gs, xs = pre ++ x :: post → I pre bs gs →
      Does (f x) gs fun b => I (pre ++ [x]) (bs ++ [b]))
    (h₀ : I [] [] fs) : Does (xs.mapM f) fs fun bs => I xs bs := by
  refine (ends_mapM (E := fun _ _ => False) (fun pre x post bs gs hx hI => ?_) h₀).mono ?_
  · exact Ends.mono (h pre x post bs gs hx hI) fun r hs => Or.inl
  · rintro r gs (hr | ⟨_, -, hfalse⟩)
    · exact hr
    · exact hfalse.elim

lemma does_forM {f : α → Acting Unit} {xs : List α} {I : Files → Prop}
    (h : ∀ x ∈ xs, ∀ gs, I gs → Does (f x) gs fun _ => I) (h₀ : I fs) :
    Does (xs.forM f) fs fun _ => I := by
  induction xs generalizing fs with
  | nil => exact does_pure h₀
  | cons x xs ih =>
    change Does (f x >>= fun _ => xs.forM f) fs _
    refine (h x List.mem_cons_self fs h₀).bind fun _ gs hI => ?_
    exact ih (fun y hy => h y (List.mem_cons_of_mem x hy)) hI

lemma does_filterM {f : α → Acting Bool} {p : α → Bool} {xs : List α}
    (h : ∀ x ∈ xs, Does (f x) fs fun b gs => gs = fs ∧ b = p x) :
    Does (xs.filterM f) fs fun ys gs => gs = fs ∧ ys = xs.filter p := by
  suffices hs : ∀ acc, Does (xs.filterAuxM f acc) fs fun ys gs =>
      gs = fs ∧ ys = (xs.filter p).reverse ++ acc by
    refine (hs []).bind ?_
    rintro _ _ ⟨rfl, rfl⟩
    exact does_pure ⟨rfl, by simp⟩
  induction xs with
  | nil => exact fun acc => does_pure ⟨rfl, rfl⟩
  | cons x xs ih =>
    intro acc
    refine (h x List.mem_cons_self).bind ?_
    rintro _ gs ⟨rfl, rfl⟩
    refine (ih (fun y hy => h y (List.mem_cons_of_mem x hy)) _).mono ?_
    rintro _ _ ⟨rfl, rfl⟩
    refine ⟨rfl, ?_⟩
    cases hp : p x <;> simp [hp]

/-! What is known of work that has ended well. -/

section Ended

variable {a : α} {s s' : Scene}

lemma exists_ended {g : α → β} {b : β} (h : (c.run.run s).1.toOption.map g = some b) :
    ∃ a s', c.run.run s = (.ok a, s') ∧ g a = b := by
  rcases hc : c.run.run s with ⟨e | a, s'⟩
  · rw [hc] at h
    cases h
  · rw [hc] at h
    exact ⟨a, s', rfl, Option.some.inj h⟩

lemma settle_eq_ok {r : Except Fault α} (h : (settle r).run.run s = (.ok a, s')) : r = .ok a ∧ s' = s := by
  cases r with
  | ok b =>
    cases h
    exact ⟨rfl, rfl⟩
  | error f => cases congrArg Prod.fst h

lemma files_eq_ok {fs : Files} (h : files.run.run s = (.ok fs, s')) : fs = s.files ∧ s' = s := by
  cases h
  exact ⟨rfl, rfl⟩

lemma ask_eq_ok {p : Path} {op : Files → Except FileError α} (h : (ask p op).run.run s = (.ok a, s')) :
    op s.files = .ok a ∧ s' = s := by
  simp only [ask, run_bind, run_files] at h
  cases hop : op s.files with
  | ok b =>
    simp only [hop] at h
    cases h
    exact ⟨rfl, rfl⟩
  | error e =>
    simp only [hop] at h
    cases congrArg Prod.fst h

lemma does_notes (ns : List Note) : Does (ns.forM note) fs fun _ gs => gs = fs :=
  does_forM (fun n _ _ hgs => does_note n hgs) rfl

lemma run_ofNoting (c : Noting α) (s : Scene) :
    ∃ s', (ofNoting c).run.run s = (c.start.1, s') ∧ s'.files = s.files := by
  obtain ⟨_, hok, hfiles⟩ := does_notes c.start.2 s rfl
  refine ⟨((c.start.2.forM note).run.run s).2, ?_, hfiles⟩
  have hnotes : (c.start.2.forM note).run.run s = (.ok (), ((c.start.2.forM note).run.run s).2) :=
    Prod.ext hok rfl
  change ((c.start.2.forM note) >>= fun _ => settle c.start.1).run.run s = _
  rw [run_bind, hnotes]
  cases c.start.1 <;> rfl

lemma ends_start (c : Noting α) :
    Ends (ofNoting c) fs fun r gs => r = c.start.1 ∧ gs = fs := by
  rintro s rfl
  obtain ⟨s', hrun, hfiles⟩ := run_ofNoting c s
  rw [hrun]
  exact ⟨rfl, hfiles⟩

lemma ofNoting_eq_ok {c : Noting α} (h : (ofNoting c).run.run s = (.ok a, s')) :
    c.start.1 = .ok a ∧ s'.files = s.files := by
  obtain ⟨u, hrun, hfiles⟩ := run_ofNoting c s
  rw [h] at hrun
  obtain ⟨ha, rfl⟩ := Prod.mk.inj hrun
  exact ⟨ha.symm, hfiles⟩

end Ended

end CallSnapshot.Acting
