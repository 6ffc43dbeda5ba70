import CallSnapshot.Proofs.Capture.Recording

/-!
A call and its line. The line of a call is one line, an object from its first character to its last,
and the call comes back from it but for the offsets of its times.
-/

namespace CallSnapshot

open Text
open Value (Basic Readable Short)

lemma Json.print_object_braces {members : List (String × Json)} {line : String}
    (h : print compact (.obj members) = .ok line) : ∃ body, line.toList = '\x7b' :: body ++ ['\x7d'] := by
  obtain ⟨parts, -, hline⟩ := chars_object Layout.legible_compact (chars_of_print h)
  rw [hline]
  cases parts with
  | nil => exact ⟨[], rfl⟩
  | cons m ms => exact ⟨_, rfl⟩

namespace Codec

open Value (Same forall_right)

variable {vs ws : List Value} {ds : List Json}

lemma exists_read (mode : Mode) (hv : ∀ v ∈ vs, Basic v)
    (h : List.Forall₂ (fun v d => encode [] v = .ok d) vs ds) :
    (∀ d ∈ ds, d.Faithful) ∧ ∃ ws, List.Forall₂ (fun d w => decode mode d = pure w) ds ws ∧
      List.Forall₂ ReadsAs vs ws := by
  refine ⟨forall_right h fun v hm d hd => faithful_encode (by simp) (hv v hm).sound hd, ?_⟩
  refine forall₂_triple h fun v hm d hd => ?_
  obtain ⟨w, hw, hreads⟩ : ∃ w, Decodes mode d w ∧ ReadsAs v w := exists_decoded (hv v hm) hd
  exact ⟨w, hw.decode, hreads⟩

lemma ReadsAs.same_iff {v w : Value} (h : ReadsAs v w) : Same v w ↔ v.Readable :=
  ⟨fun hs => hs.readable h.readable, h.same⟩

lemma same_items_iff (h : List.Forall₂ ReadsAs vs ws) : List.Forall₂ Same vs ws ↔ ∀ v ∈ vs, v.Readable := by
  induction h with
  | nil => exact iff_of_true .nil nofun
  | cons hx _ ih => rw [List.forall₂_cons, List.forall_mem_cons, ih, hx.same_iff]

lemma exists_printable_iff (hv : ∀ v ∈ vs, Basic v) :
    (∃ ds, List.Forall₂ (fun v d => encode [] v = .ok d) vs ds ∧ ∀ d ∈ ds, d.Printable) ↔
      ∀ v ∈ vs, v.Short := by
  constructor
  · rintro ⟨ds, hds, hprint⟩
    exact (forall₂_iff hds fun v hm d hd => (printable_iff_short (hv v hm) hd).symm).mpr hprint
  · intro hs
    obtain ⟨ds, hds⟩ := exists_forall₂_iff.mpr fun v hm => (exists_data_iff (hv v hm)).mpr (hs v hm).sortable
    exact ⟨ds, hds, (forall₂_iff hds fun v hm d hd => (printable_iff_short (hv v hm) hd).symm).mp hs⟩

end Codec

namespace Event

def values (e : Event) : List Value := e.args ++ e.kwargs.map Prod.snd ++ [e.result]

/-- A call with plain values, its name and time texts, no argument named twice. -/
structure Plain (e : Event) : Prop where
  name : ∃ s, e.name = .str s
  time : ∃ s, e.time = .str s
  names : (e.kwargs.map Prod.fst).Nodup
  values : ∀ v ∈ e.values, v.Plain

structure Same (e e' : Event) : Prop where
  name : e.name = e'.name
  args : List.Forall₂ Value.Same e.args e'.args
  kwargs : SameNamed e.kwargs e'.kwargs
  result : e.result.Same e'.result
  time : e.time = e'.time

variable {e : Event} {line : String}

lemma forall_values {P : Value → Prop} : (∀ v ∈ e.values, P v) ↔
    (∀ v ∈ e.args, P v) ∧ (∀ v ∈ e.kwargs.map Prod.snd, P v) ∧ P e.result := by
  rw [values, List.forall_mem_append, List.forall_mem_append, List.forall_mem_singleton, and_assoc]

lemma exists_data (h : e.line [] = .ok line) : ∃ ds ms rd,
    List.Forall₂ (fun v d => Codec.encode [] v = .ok d) e.args ds ∧
    List.Forall₂ (fun k m => m.1 = k.1 ∧ Codec.encode [] k.2 = .ok m.2) e.kwargs ms ∧
    Codec.encode [] e.result = .ok rd ∧
    Json.print Json.compact (recordData e.name ds ms rd e.time) = .ok line := by
  obtain ⟨data, hdata, hprint⟩ := bind_eq_ok.mp h
  obtain ⟨ds, hds, hdata⟩ := bind_eq_ok.mp hdata
  obtain ⟨ms, hms, hdata⟩ := bind_eq_ok.mp hdata
  obtain ⟨rd, hrd, hdata⟩ := bind_eq_ok.mp hdata
  cases hdata
  exact ⟨ds, ms, rd, Codec.mapM_eq_ok.mp hds, Codec.encodeKwargs_eq_ok.mp hms, hrd, hprint⟩

lemma forall₂_named {heap : Heap} {ms : List (String × Json)} {kwargs : List (String × Value)}
    (h : List.Forall₂ (fun k m => m.1 = k.1 ∧ Codec.encode heap k.2 = .ok m.2) kwargs ms) :
    ms.map Prod.fst = kwargs.map Prod.fst ∧
      List.Forall₂ (fun v d => Codec.encode heap v = .ok d) (kwargs.map Prod.snd) (ms.map Prod.snd) := by
  induction h with
  | nil => exact ⟨rfl, .nil⟩
  | cons hm _ ih =>
    rw [List.map_cons, List.map_cons, List.map_cons, List.map_cons, hm.1, ih.1]
    exact ⟨rfl, .cons hm.2 ih.2⟩

lemma sameNamed_zip {kwargs : List (String × Value)} {us : List Value} (hl : kwargs.length = us.length) :
    SameNamed kwargs ((kwargs.map Prod.fst).zip us) ↔ List.Forall₂ Value.Same (kwargs.map Prod.snd) us := by
  induction kwargs generalizing us with
  | nil =>
    obtain rfl := List.length_eq_zero_iff.mp hl.symm
    exact iff_of_true .nil .nil
  | cons k ks ih =>
    obtain ⟨u, us, rfl⟩ := List.exists_cons_of_length_eq_add_one hl.symm
    have hrest := ih (by simpa using hl)
    unfold SameNamed at hrest ⊢
    rw [List.map_cons, List.map_cons, List.zip_cons_cons, List.forall₂_cons, List.forall₂_cons, hrest]
    simp

lemma exists_line_iff (he : e.Plain) : (∃ line, e.line [] = .ok line) ↔ ∀ v ∈ e.values, v.Short := by
  obtain ⟨⟨name, hname⟩, ⟨time, htime⟩, -, hvalues⟩ := he
  obtain ⟨hargs, hkwargs, hresult⟩ := forall_values.mp fun v hv => (hvalues v hv).basic
  rw [forall_values, ← Codec.exists_printable_iff hargs, ← Codec.exists_printable_iff hkwargs]
  constructor
  · rintro ⟨line, hline⟩
    obtain ⟨ds, ms, rd, hds, hms, hrd, hprint⟩ := exists_data hline
    rw [hname, htime] at hprint
    obtain ⟨hd, hm, hr⟩ := (recordData_printable name time).mp (Json.print_eq_ok.mp ⟨line, hprint⟩)
    obtain ⟨-, hms⟩ := forall₂_named hms
    exact ⟨⟨ds, hds, hd⟩, ⟨_, hms, List.forall_mem_map.mpr hm⟩, (Codec.printable_iff_short hresult hrd).mp hr⟩
  · rintro ⟨⟨ds, hds, hd⟩, ⟨ys, hys, hy⟩, hshort⟩
    obtain ⟨rd, hrd⟩ := (Codec.exists_data_iff hresult).mpr hshort.sortable
    have hms := Codec.encodeKwargs_eq_ok.mpr (Codec.forall₂_zip hys)
    have hmembers : ∀ m ∈ (e.kwargs.map Prod.fst).zip ys, m.2.Printable := fun m hm =>
      hy m.2 (List.of_mem_zip hm).2
    have hprintable := (recordData_printable name time).mpr
      ⟨hd, hmembers, (Codec.printable_iff_short hresult hrd).mpr hshort⟩
    obtain ⟨line, hline⟩ := Json.print_eq_ok (l := Json.compact).mpr hprintable
    refine ⟨line, bind_eq_ok.mpr ⟨_, ?_, hline⟩⟩
    rw [← hname, ← htime]
    exact bind_eq_ok.mpr ⟨ds, Codec.mapM_eq_ok.mpr hds, bind_eq_ok.mpr ⟨_, hms, bind_eq_ok.mpr ⟨rd, hrd, rfl⟩⟩⟩

/-- The line of a call is one line, between braces, and is read as an object of JSON; the call that this
holds, its arguments rebuilt or not, is the same if and only if the offsets of all its times are read
back. There is a line where no integer is too long for a text. -/
theorem line_round_trip (he : e.Plain) (mode : Codec.Mode) :
    ((∃ line, e.line [] = .ok line) ↔ ∀ v ∈ e.values, v.Short) ∧
    ∀ line, e.line [] = .ok line → Unbroken line.toList ∧
      (∃ body, line.toList = '\x7b' :: body ++ ['\x7d']) ∧ trim line = line ∧
      ∃ data e', Json.parse line = .ok data ∧ (ofData mode data).start.1 = .ok e' ∧
        (e.Same e' ↔ ∀ v ∈ e.values, v.Readable) := by
  refine ⟨exists_line_iff he, fun line hline => ?_⟩
  obtain ⟨⟨name, hname⟩, ⟨time, htime⟩, hnames, hvalues⟩ := he
  obtain ⟨hargs, hkwargs, hresult⟩ := forall_values.mp fun v hv => (hvalues v hv).basic
  obtain ⟨ds, ms, rd, hds, hms, hrd, hprint⟩ := exists_data hline
  obtain ⟨hkeys, hys⟩ := forall₂_named hms
  obtain ⟨hfaithful, ws, hws, hwreads⟩ := Codec.exists_read mode hargs hds
  obtain ⟨hkfaithful, us, hus, hureads⟩ := Codec.exists_read mode hkwargs hys
  obtain ⟨w, hw, hreads⟩ : ∃ w, Codec.Decodes none rd w ∧ Codec.ReadsAs e.result w := Codec.exists_decoded hresult hrd
  have hall : (recordData (.str name) ds ms rd (.str time)).Faithful :=
    recordData_faithful name time hfaithful ⟨hkeys ▸ hnames, List.forall_mem_map.mp hkfaithful⟩
      (Codec.faithful_encode (by simp) hresult.sound hrd)
  rw [hname, htime] at hprint
  obtain ⟨hunbroken, htrim, hparse⟩ := Json.print_object hall hprint
  refine ⟨hunbroken, Json.print_object_braces hprint, htrim, _,
    ⟨e.name, ws, (e.kwargs.map Prod.fst).zip us, w, e.time⟩, hparse, ?_, ?_⟩
  · have hmembers : ms = (e.kwargs.map Prod.fst).zip (ms.map Prod.snd) := by
      rw [← hkeys]
      exact List.zip_of_prod rfl rfl
    have hlength : (e.kwargs.map Prod.fst).length = (ms.map Prod.snd).length := by
      rw [← hkeys, List.length_map, List.length_map]
    have hkw : Codec.decodeMembers (Codec.decode mode) ms = pure ((e.kwargs.map Prod.fst).zip us) := by
      rw [hmembers]
      exact Codec.decodeMembers_eq hlength hus
    rw [hname, htime]
    exact start_ofRecord (Codec.mapM_pure_of hws) hkw (congrArg (fun c => (Noting.start c).1) hw.decode)
  · have hlength : e.kwargs.length = us.length := by
      rw [← hureads.length_eq, List.length_map]
    rw [forall_values, ← Codec.same_items_iff hwreads, ← Codec.same_items_iff hureads, ← hreads.same_iff,
      ← sameNamed_zip hlength]
    exact ⟨fun h => ⟨h.args, h.kwargs, h.result⟩, fun ⟨h₁, h₂, h₃⟩ => ⟨rfl, h₁, h₂, h₃, rfl⟩⟩

/-- A call at a date and time so many microseconds ahead, with an argument of any name. -/
def ahead (o : ℤ) : Event :=
  ⟨.str "f", [.datetime ⟨⟨2024, 1, 2⟩, ⟨3, 4, 5, 0, some o⟩⟩], [("__type__", .str "a\nb")], .null, .str "noon"⟩

lemma atom_ahead {o : ℤ} (ho : o.natAbs < offsetLimit) :
    Value.Atom (.datetime ⟨⟨2024, 1, 2⟩, ⟨3, 4, 5, 0, some o⟩⟩) := by
  have hdate : Date.Valid ⟨2024, 1, 2⟩ := by
    unfold Date.Valid
    decide
  exact .datetime ⟨hdate, by norm_num, by norm_num, by norm_num, by norm_num, by simpa using ho⟩

lemma forall_ahead {P : Value → Prop} {o : ℤ} : (∀ v ∈ (ahead o).values, P v) ↔
    P (.datetime ⟨⟨2024, 1, 2⟩, ⟨3, 4, 5, 0, some o⟩⟩) ∧ P (.str "a\nb") ∧ P .null := by
  rw [forall_values]
  simp [ahead]

lemma plain_ahead {o : ℤ} (ho : o.natAbs < offsetLimit) : (ahead o).Plain where
  name := ⟨_, rfl⟩
  time := ⟨_, rfl⟩
  names := List.nodup_singleton _
  values := forall_ahead.mpr ⟨.atom (atom_ahead ho), .atom (.str _), .atom .null⟩

lemma short_ahead {o : ℤ} (ho : o.natAbs < offsetLimit) : ∀ v ∈ (ahead o).values, v.Short :=
  forall_ahead.mpr ⟨(Value.everywhere_atom (atom_ahead ho)).mpr nofun,
    (Value.everywhere_atom (.str _)).mpr nofun, (Value.everywhere_atom .null).mpr nofun⟩

lemma readable_ahead_iff {o : ℤ} (ho : o.natAbs < offsetLimit) :
    (∀ v ∈ (ahead o).values, v.Readable) ↔ ClockTime.Readable ⟨3, 4, 5, 0, some o⟩ := by
  have hstr : Readable (.str "a\nb") := (Value.everywhere_atom (.str _)).mpr ⟨by simp, by simp⟩
  have hnull : Readable .null := (Value.everywhere_atom .null).mpr ⟨by simp, by simp⟩
  rw [forall_ahead, and_iff_left ⟨hstr, hnull⟩, Readable, Value.everywhere_atom (atom_ahead ho)]
  exact ⟨fun h => h.2 _ rfl, fun h => ⟨by simp, by rintro _ ⟨⟩; exact h⟩⟩

/-- A call at a time an hour ahead comes back; at one that is ahead by a microsecond, another does. -/
theorem line_round_trip_ahead : ((ahead 3600000000).Plain ∧ (ahead 1).Plain) ∧
    (∃ line data e', (ahead 3600000000).line [] = .ok line ∧ Json.parse line = .ok data ∧
      (ofData none data).start.1 = .ok e' ∧ (ahead 3600000000).Same e') ∧
    ∃ line data e', (ahead 1).line [] = .ok line ∧ Json.parse line = .ok data ∧
      (ofData none data).start.1 = .ok e' ∧ ¬ (ahead 1).Same e' := by
  have hhour : (3600000000 : ℤ).natAbs < offsetLimit := by decide
  have hmicro : (1 : ℤ).natAbs < offsetLimit := by decide
  refine ⟨⟨plain_ahead hhour, plain_ahead hmicro⟩, ?_, ?_⟩
  · obtain ⟨hline, hround⟩ := line_round_trip (plain_ahead hhour) none
    obtain ⟨line, hl⟩ := hline.mpr (short_ahead hhour)
    obtain ⟨-, -, -, data, e', hparse, hdata, hsame⟩ := hround line hl
    refine ⟨line, data, e', hl, hparse, hdata, hsame.mpr ((readable_ahead_iff hhour).mpr ?_)⟩
    simp [ClockTime.Readable]
  · obtain ⟨hline, hround⟩ := line_round_trip (plain_ahead hmicro) none
    obtain ⟨line, hl⟩ := hline.mpr (short_ahead hmicro)
    obtain ⟨-, -, -, data, e', hparse, hdata, hsame⟩ := hround line hl
    refine ⟨line, data, e', hl, hparse, hdata, fun h => ?_⟩
    have hreadable := (readable_ahead_iff hmicro).mp (hsame.mp h)
    simp [ClockTime.Readable] at hreadable

end Event

end CallSnapshot
