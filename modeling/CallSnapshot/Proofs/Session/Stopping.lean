import CallSnapshot.Proofs.Session.Number
import CallSnapshot.Proofs.Session.Pristine

/-!
A session with a collector. Its number lies beside the copies and the log somewhere else, so that
neither is in the way when the files are restored.
-/

namespace CallSnapshot.Workspace

open Files Acting

variable {w : Workspace} {temp dir : Place} {n : String} {start fs gs : Files} {p : Path}

def numberPlace (w : Workspace) (temp : Place) : Place := w.sessionPlace temp ++ ["io-snapshot.pid"]

/-- The path of a file in a directory that is found without those of the session. -/
structure Elsewhere (w : Workspace) (temp : Place) (start : Files) (p : Path) (dir : Place) (n : String) :
    Prop where
  path : ∃ b, p = down b [n] ∧ Leads ((start.eraseTree (w.sessionPlace temp)).eraseTree w.localPlace) b dir
  proper : Proper n
  session : ¬ w.sessionPlace temp <+: dir ++ [n]
  backups : ¬ w.localPlace <+: dir ++ [n]

lemma numberPlace_ne_backup (r : List String) :
    w.sessionPlace temp ++ "backup" :: r ≠ w.numberPlace temp := by
  rw [numberPlace, Ne, List.append_cancel_left_eq]
  simp

lemma sessionPlace_prefix_number : w.sessionPlace temp <+: w.numberPlace temp := List.prefix_append _ _

lemma primary_dir : (w.primaryDepot temp).dir = w.sessionPlace temp ++ ["backup"] := by
  simp [Depot.dir, Depot.lead, primaryDepot, sessionPlace]

lemma Held.beside (hh : Held w temp start fs) (h : Site w temp start) (hsound : Sound gs)
    (hc : gs.current = fs.current)
    (hsession : gs.get? (w.sessionPlace temp) = none ∨ gs.get? (w.sessionPlace temp) = some .directory)
    (hq : ∀ q, q ≠ w.sessionPlace temp → q ≠ w.numberPlace temp → gs.get? q = fs.get? q) :
    Held w temp start gs := by
  have helse : ∀ q, ¬ w.sessionPlace temp <+: q → gs.get? q = fs.get? q := fun q hn => by
    refine hq q ?_ ?_ <;> rintro rfl
    · exact hn (List.prefix_refl _)
    · exact hn sessionPlace_prefix_number
  have hbackup : ∀ r, gs.get? (w.sessionPlace temp ++ "backup" :: r) =
      fs.get? (w.sessionPlace temp ++ "backup" :: r) := fun r =>
    hq _ (by simp) (numberPlace_ne_backup r)
  have hcopies : ∀ r, gs.get? ((w.primaryDepot temp).dir ++ r) = fs.get? ((w.primaryDepot temp).dir ++ r) := by
    intro r
    rw [primary_dir, List.append_assoc]
    exact hbackup r
  have hlocal : ∀ q, w.localPlace <+: q → gs.get? q = fs.get? q := fun q hl =>
    helse q fun hp => h.disjoint hp hl
  have hprimary : (w.primaryDepot temp).Holds (Source w temp start) gs := by
    refine ⟨fun r hr hp => ?_, fun r e he => hh.shape.primary.copies r e (hcopies r ▸ he)⟩
    change r <+: [w.sessionName, "backup"] at hp
    obtain ⟨m, r, rfl⟩ := List.exists_cons_of_ne_nil hr
    obtain ⟨rfl, hp'⟩ := List.cons_prefix_cons.mp hp
    cases r with
    | nil => exact hsession
    | cons m r =>
      obtain ⟨rfl, -⟩ := List.cons_prefix_cons.mp hp'
      have hsame := hbackup r
      rw [sessionPlace, List.append_assoc] at hsame
      change gs.get? (temp ++ w.sessionName :: "backup" :: r) = none ∨
        gs.get? (temp ++ w.sessionName :: "backup" :: r) = some .directory
      rw [show gs.get? (temp ++ w.sessionName :: "backup" :: r) = _ from hsame]
      exact hh.shape.primary.way _ (by simp) hp
  refine ⟨hh.shape.next hsound hc (fun q hn _ => helse q hn) hprimary (hh.shape.fallback.congr hlocal),
    fun rel bs hrel => ?_⟩
  have hstanding : w.standing temp gs rel = w.standing temp fs rel := by
    have hfallback : gs.get? (w.localDepot.copyPlace rel) = fs.get? (w.localDepot.copyPlace rel) :=
      hlocal _ (List.prefix_append _ _)
    simp only [standing, helse _ hrel.session, hfallback]
    rw [Depot.copyPlace, hcopies]
  rw [hstanding]
  exact hh.kept rel bs hrel

namespace Elsewhere

variable {rel : List String} {bs c : List UInt8} (hp : Elsewhere w temp start p dir n)

include hp

end Elsewhere

namespace Site

variable (h : Site w temp start) (hp : Elsewhere w temp start p dir n)

include h hp

end Site

/-! The number that is kept. -/

section Number

variable (h : Site w temp start) (hs : Shape w temp start fs)
  (hn : fs.get? (w.numberPlace temp) = none ∨ ∃ bs, fs.get? (w.numberPlace temp) = some (.file bs))

include hs hn

include h

end Number

lemma Elsewhere.placeOf (hp : Elsewhere w temp start p dir n) (hs : Shape w temp start fs)
    (hfile : fs.get? (dir ++ [n]) = none ∨ ∃ bs, fs.get? (dir ++ [n]) = some (.file bs)) :
    fs.placeOf p = .ok (dir ++ [n]) := by
  obtain ⟨b, rfl, hleads⟩ := hp.path
  have hb := hleads.extends (hs.extends_outside fun _ _ _ => rfl) hs.current
  refine hb.placeOf_down (by simp [hp.proper.2]) ?_ hs.sound fun _ => by simpa using hb.directory
  intro r hr hpre t ht
  obtain ⟨m, r, rfl⟩ := List.exists_cons_of_ne_nil hr
  obtain ⟨rfl, hnil⟩ := List.cons_prefix_cons.mp hpre
  obtain rfl := List.prefix_nil.mp hnil
  rcases hfile with hnone | ⟨bs, hbs⟩
  · rw [ht] at hnone
    cases hnone
  · rw [ht] at hbs
    cases hbs

end CallSnapshot.Workspace
