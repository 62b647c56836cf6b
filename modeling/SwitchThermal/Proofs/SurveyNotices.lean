import SwitchThermal.Proofs.Changes
import SwitchThermal.Proofs.Samples

/-!
# What the survey says of a fan or a supply

The survey reads each chassis fan and each supply, says what the reading is worth, given the one
that is remembered, and remembers it. So it keeps to each of them as what is watched, and so does
every pass.

* `runOn_surveyFan`, `runOn_surveySupply` — one fan and one supply of the survey.
* `fanWatch`, `supplyWatch` — a fan and a supply as what is watched.
* `fanNotice_cases`, `supplyNotice_eq` — the notices that they are worth.
* `fanWatch_sound`, `supplyWatch_sound` — the survey keeps to them.
-/

set_option autoImplicit false

namespace SwitchThermal

variable {σ α P : Type} {b : Board σ}

/-! ## One access of the survey -/

theorem unsampled_of_unsurveyed {q : Query} (h : q.surveys = false) : Unsampled q where
  fan slot heq := by
    subst heq
    cases h
  supply p heq := by
    subst heq
    cases h

namespace Pass

variable {w : σ} {s : ControlState}

theorem runOn_ask (q : DeviceQuery) :
    (ask q).runOn b s w = ⟨(.ok (b (.device q) w).answer, s), (b (.device q) w).next,
      (b (.device q) w).notices.map .noted ++ [.asked (.device q) (b (.device q) w).answer]⟩ :=
  runOn_ofProgram _

theorem runOn_tellAll (ns : List Notice) :
    (tellAll ns).runOn b s w = ⟨(.ok (), s), w, ns.map .noted⟩ := by
  have run : (Program.tellAll ns).run b w = ⟨(), w, ns.map .noted⟩ := by
    induction ns with
    | nil => rfl
    | cons n ns ih => rw [Program.tellAll, Program.run, ih, List.map_cons]
  rw [tellAll, runOn_ofProgram, run]

/-- A part that begins with an access. -/
theorem runOn_ask_bind {q : DeviceQuery} {f : Except Fault q.Payload → Pass α}
    {o : Outcome σ (Except Halt α × ControlState)}
    (rest : (f (b (.device q) w).answer).runOn b s (b (.device q) w).next = o) :
    (ask q >>= f).runOn b s w = ⟨o.value, o.world, (b (.device q) w).notices.map .noted ++
      .asked (.device q) (b (.device q) w).answer :: o.trace⟩ := by
  have first := congrArg Outcome.value (runOn_ask (b := b) (w := w) (s := s) q)
  rw [runOn_bind_ok first, runOn_ask, rest, List.append_assoc]
  rfl

/-- A part that begins with an access that has to succeed. -/
theorem runOn_need_bind {q : DeviceQuery} {notice : Fault → Notice} {f : q.Payload → Pass α}
    {a : q.Payload} {o : Outcome σ (Except Halt α × ControlState)}
    (answer : (b (.device q) w).answer = .ok a)
    (rest : (f a).runOn b s (b (.device q) w).next = o) :
    (need q notice >>= f).runOn b s w = ⟨o.value, o.world, (b (.device q) w).notices.map .noted ++
      .asked (.device q) (b (.device q) w).answer :: o.trace⟩ := by
  unfold need
  rw [bind_assoc]
  refine runOn_ask_bind ?_
  rw [answer]
  exact rest

theorem runOn_need_bind_error {q : DeviceQuery} {notice : Fault → Notice} {f : q.Payload → Pass α}
    {e : Fault} (answer : (b (.device q) w).answer = .error e) :
    (need q notice >>= f).runOn b s w = ⟨(.error (.fault e), s), (b (.device q) w).next,
      (b (.device q) w).notices.map .noted ++ .asked (.device q) (b (.device q) w).answer ::
        [notice e].map .noted⟩ := by
  unfold need
  rw [bind_assoc]
  refine runOn_ask_bind (o := ⟨(.error (.fault e), s), _, [notice e].map .noted⟩) ?_
  rw [answer]
  rfl

theorem runOn_tellAll_bind {ns : List Notice} {f : Unit → Pass α} {a : α} {s' : ControlState}
    (rest : (f ()).runOn b s w = ⟨(.ok a, s'), w, []⟩) :
    (tellAll ns >>= f).runOn b s w = ⟨(.ok a, s'), w, ns.map .noted⟩ := by
  have first := congrArg Outcome.value (runOn_tellAll (b := b) (w := w) (s := s) ns)
  rw [runOn_bind_ok first, runOn_tellAll, rest, List.append_nil]

end Pass

/-! ## Watching one of them -/

namespace Watch

variable {e : Watch P}

/-- A part that makes an access and then says what the reading is worth. -/
theorem Regular.kept_access (regular : e.Regular) (unspoken : b.Unspoken) {q : Query} {w w' : σ}
    {s s' : ControlState} {r : Except Halt α} {ns : List Notice}
    (tells : ns.filter e.about =
      e.changes (e.memory s) (e.sample (.asked q (b q w).answer)).toList)
    (remembers : e.memory s' = latest (e.memory s) (e.sample (.asked q (b q w).answer)).toList) :
    e.Kept s (⟨(r, s'), w', (b q w).notices.map .noted ++ .asked q (b q w).answer ::
      ns.map .noted⟩ : Outcome σ (Except Halt α × ControlState)) := by
  obtain ⟨silent, unread⟩ := regular.noted_nil (unspoken q w)
  have told : e.messages (.asked q (b q w).answer :: ns.map .noted) = ns.filter e.about := by
    refine congrArg (List.filter e.about) ?_
    rw [Program.notices, List.filterMap_cons_none rfl, List.filterMap_map]
    exact List.filterMap_some
  have read : e.readings (.asked q (b q w).answer :: ns.map .noted) =
      (e.sample (.asked q (b q w).answer)).toList := by
    have later : e.readings (ns.map .noted) = [] := by
      rw [readings, List.filterMap_map]
      exact List.filterMap_eq_nil_iff.2 fun n _ => regular.noted n
    rw [← List.singleton_append, readings_append, later, List.append_nil]
    cases found : e.sample (.asked q (b q w).answer) with
    | none => exact List.filterMap_cons_none found
    | some r => exact List.filterMap_cons_some found
  constructor
  · rw [messages_append, readings_append, silent, unread, List.nil_append, List.nil_append, told,
      read]
    exact tells
  · rw [readings_append, unread, List.nil_append, read]
    exact remembers

end Watch

/-- A fan that is watched. -/
def fanWatch (f : Fan) : Watch FanReading where
  sample e := (fanSample e).bind fun x => if x.1 = f then some x.2 else none
  memory s := s.previousFans.get? f
  worth before r := fanNotice before f r
  about
    | .fanAbsent g | .fanSpeedInvalid g _ => g = f
    | _ => false

/-- A supply that is watched. -/
def supplyWatch (p : PowerSupply) : Watch SupplyReading where
  sample e := (supplySample e).bind fun x => if x.1 = p then x.2.toOption else none
  memory s := s.previousSupplies.get? p
  worth before r := supplyNotice before p r
  about
    | .supplyAbsent q => q = p
    | _ => false

theorem fanWatch_regular (f : Fan) : (fanWatch f).Regular where
  problem n h := by
    cases n with
    | fanAbsent | fanSpeedInvalid => cases h
    | _ => rfl
  noted _ := rfl
  asked q h a := by
    unfold fanWatch
    simp only [(unsampled_of_unsurveyed h).fanSample a, Option.bind_none]
  memory s s' fans _ := congrArg (·.get? f) fans

theorem supplyWatch_regular (p : PowerSupply) : (supplyWatch p).Regular where
  problem n h := by
    cases n with
    | supplyAbsent => cases h
    | _ => rfl
  noted _ := rfl
  asked q h a := by
    unfold supplyWatch
    simp only [(unsampled_of_unsurveyed h).supplySample a, Option.bind_none]
  memory s s' _ supplies := congrArg (·.get? p) supplies

/-! ## What the survey says of them -/

/-- A fan is worth one of two notices. -/
theorem fanNotice_cases {before : Option FanReading} {f : Fan} {r : FanReading} {n : Notice}
    (h : n ∈ (fanNotice before f r).toList) : n = .fanAbsent f ∨ n = .fanSpeedInvalid f r.rpm := by
  have told := Option.mem_toList.1 h
  unfold fanNotice at told
  split at told
  · split at told
    · exact .inl (Option.some.inj told).symm
    · cases told
  · split at told
    · split at told
      · exact .inr (Option.some.inj told).symm
      · cases told
    · cases told

/-- A supply is worth one. -/
theorem supplyNotice_eq {before : Option SupplyReading} {p : PowerSupply} {r : SupplyReading}
    {n : Notice} (h : n ∈ (supplyNotice before p r).toList) : n = .supplyAbsent p := by
  have told := Option.mem_toList.1 h
  unfold supplyNotice at told
  split at told
  · split at told
    · exact (Option.some.inj told).symm
    · cases told
  · cases told

theorem about_fanNotice {before : Option FanReading} {f g : Fan} {r : FanReading} {n : Notice}
    (h : n ∈ (fanNotice before g r).toList) : (fanWatch f).about n = decide (g = f) := by
  obtain rfl | rfl := fanNotice_cases h <;> rfl

theorem about_supplyNotice {before : Option SupplyReading} {p q : PowerSupply} {r : SupplyReading}
    {n : Notice} (h : n ∈ (supplyNotice before q r).toList) :
    (supplyWatch p).about n = decide (q = p) := by
  rw [supplyNotice_eq h]
  rfl

/-- Notices that are all about one of them. -/
theorem filter_of_about {about : Notice → Bool} {same : Prop} [Decidable same] {ns : List Notice}
    (h : ∀ n ∈ ns, about n = decide same) : ns.filter about = if same then ns else [] := by
  split
  · rename_i here
    exact List.filter_eq_self.2 fun n hn => by rw [h n hn, decide_eq_true here]
  · rename_i elsewhere
    refine List.filter_eq_nil_iff.2 fun n hn => ?_
    rw [h n hn, decide_eq_false elsewhere]
    nofun

/-- The survey of a fan that can be read. -/
theorem runOn_surveyFan {w : σ} {s : ControlState} {v : FanSurvey} {f : Fan} {r : FanReading}
    (h : (b (fanAccess f) w).answer = .ok r) :
    (surveyFan v f).runOn b s w =
      ⟨(.ok (v.add f r (fanNotice (s.previousFans.get? f) f r).isSome), s.rememberFans [(f, r)]),
        (b (fanAccess f) w).next, (b (fanAccess f) w).notices.map .noted ++
          .asked (fanAccess f) (b (fanAccess f) w).answer ::
            (fanNotice (s.previousFans.get? f) f r).toList.map .noted⟩ :=
  Pass.runOn_need_bind (o := ⟨(.ok _, _), _, _⟩) h (Pass.runOn_tellAll_bind rfl)

/-- The survey of a supply that can be read. -/
theorem runOn_surveySupply {w : σ} {s : ControlState} {v : SupplySurvey} {p : PowerSupply}
    {r : SupplyReading} (h : (b (supplyAccess p) w).answer = .ok r) :
    (surveySupply v p).runOn b s w =
      ⟨(.ok ⟨v.problem || !r.present,
          v.reported || (supplyNotice (s.previousSupplies.get? p) p r).isSome, v.records ++ [r]⟩,
          s.rememberSupplies [(p, r)]),
        (b (supplyAccess p) w).next, (b (supplyAccess p) w).notices.map .noted ++
          .asked (supplyAccess p) (b (supplyAccess p) w).answer ::
            (supplyNotice (s.previousSupplies.get? p) p r).toList.map .noted⟩ := by
  refine Pass.runOn_ask_bind (o := ⟨(.ok _, _), _, _⟩) ?_
  rw [h]
  exact Pass.runOn_tellAll_bind rfl

/-- The survey of one that cannot. -/
theorem runOn_surveySupply_error {w : σ} {s : ControlState} {v : SupplySurvey} {p : PowerSupply}
    {e : Fault} (h : (b (supplyAccess p) w).answer = .error e) :
    (surveySupply v p).runOn b s w =
      ⟨(.ok { v with problem := true, reported := true }, s), (b (supplyAccess p) w).next,
        (b (supplyAccess p) w).notices.map .noted ++
          .asked (supplyAccess p) (b (supplyAccess p) w).answer ::
            [.supplyUnreadable p e].map .noted⟩ := by
  refine Pass.runOn_ask_bind (o := ⟨(.ok _, _), _, _⟩) ?_
  rw [h]
  rfl

/-- What a reading of a fan is worth, by the memory of one of them. -/
theorem fanWatch_tells {s : ControlState} {f g : Fan} {r : FanReading} (hg : g.isChassis = true) :
    (fanNotice (s.previousFans.get? g) g r).toList.filter (fanWatch f).about =
        (fanWatch f).changes ((fanWatch f).memory s)
          ((fanWatch f).sample (.asked (fanAccess g) (.ok r))).toList ∧
      (fanWatch f).memory (s.rememberFans [(g, r)]) = Watch.latest ((fanWatch f).memory s)
        ((fanWatch f).sample (.asked (fanAccess g) (.ok r))).toList := by
  have sampled : (fanWatch f).sample (.asked (fanAccess g) (.ok r)) =
      if g = f then some r else none := by
    cases g with
    | chassis slot => rfl
    | supply p => cases hg
  rw [filter_of_about fun _ => about_fanNotice, sampled]
  by_cases same : g = f
  · subst same
    rw [if_pos rfl, if_pos rfl]
    exact ⟨(List.append_nil _).symm, Cells.get?_insert_self _ _ _⟩
  · rw [if_neg same, if_neg same]
    exact ⟨rfl, Cells.get?_insert_of_ne _ _ same⟩

theorem supplyWatch_tells {s : ControlState} {p q : PowerSupply} {r : SupplyReading} :
    (supplyNotice (s.previousSupplies.get? q) q r).toList.filter (supplyWatch p).about =
        (supplyWatch p).changes ((supplyWatch p).memory s)
          ((supplyWatch p).sample (.asked (supplyAccess q) (.ok r))).toList ∧
      (supplyWatch p).memory (s.rememberSupplies [(q, r)]) =
        Watch.latest ((supplyWatch p).memory s)
          ((supplyWatch p).sample (.asked (supplyAccess q) (.ok r))).toList := by
  have sampled : (supplyWatch p).sample (.asked (supplyAccess q) (.ok r)) =
      if q = p then some r else none := rfl
  rw [filter_of_about fun _ => about_supplyNotice, sampled]
  by_cases same : q = p
  · subst same
    rw [if_pos rfl, if_pos rfl]
    exact ⟨(List.append_nil _).symm, Cells.get?_insert_self _ _ _⟩
  · rw [if_neg same, if_neg same]
    exact ⟨rfl, Cells.get?_insert_of_ne _ _ same⟩

namespace Watch

variable {e : Watch P}

/-- The survey of a fan keeps to an entity if what its reading is worth does. -/
theorem Regular.follows_surveyFan (regular : e.Regular) {f : Fan}
    (failed : ∀ x, e.sample (.asked (fanAccess f) (.error x)) = none)
    (read : ∀ (s : ControlState) (r : FanReading),
      (fanNotice (s.previousFans.get? f) f r).toList.filter e.about =
          e.changes (e.memory s) (e.sample (.asked (fanAccess f) (.ok r))).toList ∧
        e.memory (s.rememberFans [(f, r)]) =
          latest (e.memory s) (e.sample (.asked (fanAccess f) (.ok r))).toList) (v : FanSurvey) :
    e.Follows Follows.never (surveyFan v f) := by
  refine ⟨fun b unspoken w s => .inr ?_⟩
  cases answer : (b (fanAccess f) w).answer with
  | error x =>
    have run : (surveyFan v f).runOn b s w = _ := Pass.runOn_need_bind_error answer
    rw [run]
    refine regular.kept_access unspoken ?_ ?_
    · rw [answer, failed]
      exact List.filter_cons_of_neg (by rw [regular.problem _ rfl]; nofun)
    · rw [answer, failed]
      rfl
  | ok r =>
    obtain ⟨told, remembered⟩ := read s r
    rw [← answer] at told remembered
    rw [runOn_surveyFan answer]
    exact regular.kept_access unspoken told remembered

/-- The survey of a supply does too. -/
theorem Regular.follows_surveySupply (regular : e.Regular) {p : PowerSupply}
    (failed : ∀ x, e.sample (.asked (supplyAccess p) (.error x)) = none)
    (read : ∀ (s : ControlState) (r : SupplyReading),
      (supplyNotice (s.previousSupplies.get? p) p r).toList.filter e.about =
          e.changes (e.memory s) (e.sample (.asked (supplyAccess p) (.ok r))).toList ∧
        e.memory (s.rememberSupplies [(p, r)]) =
          latest (e.memory s) (e.sample (.asked (supplyAccess p) (.ok r))).toList)
    (v : SupplySurvey) : e.Follows Follows.never (surveySupply v p) := by
  refine ⟨fun b unspoken w s => .inr ?_⟩
  cases answer : (b (supplyAccess p) w).answer with
  | error x =>
    rw [runOn_surveySupply_error answer]
    refine regular.kept_access unspoken ?_ ?_
    · rw [answer, failed]
      exact List.filter_cons_of_neg (by rw [regular.problem _ rfl]; nofun)
    · rw [answer, failed]
      rfl
  | ok r =>
    obtain ⟨told, remembered⟩ := read s r
    rw [← answer] at told remembered
    rw [runOn_surveySupply answer]
    exact regular.kept_access unspoken told remembered

end Watch

theorem fanWatch_sound (f : Fan) : (fanWatch f).Sound where
  toRegular := fanWatch_regular f
  fan v g hg := by
    obtain ⟨slot, -, rfl⟩ := List.mem_map.1 hg
    exact (fanWatch_regular f).follows_surveyFan (fun _ => rfl) (fun _ _ => fanWatch_tells rfl) v
  supply v p := by
    refine (fanWatch_regular f).follows_surveySupply (fun _ => rfl) (fun s r => ⟨?_, rfl⟩) v
    refine List.filter_eq_nil_iff.2 fun n hn => ?_
    rw [supplyNotice_eq hn]
    nofun

theorem supplyWatch_sound (p : PowerSupply) : (supplyWatch p).Sound where
  toRegular := supplyWatch_regular p
  fan v f hf := by
    obtain ⟨slot, -, rfl⟩ := List.mem_map.1 hf
    refine (supplyWatch_regular p).follows_surveyFan (fun _ => rfl) (fun s r => ⟨?_, rfl⟩) v
    refine List.filter_eq_nil_iff.2 fun n hn => ?_
    obtain rfl | rfl := fanNotice_cases hn <;> nofun
  supply v q := by
    refine (supplyWatch_regular p).follows_surveySupply (fun x => ?_) (fun _ _ => supplyWatch_tells)
      v
    show (if q = p then (Except.error x : Except Fault SupplyReading).toOption else none) = none
    split <;> rfl

end SwitchThermal
