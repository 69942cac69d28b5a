import DeviceBroker.Proofs.Broker.Registers
import DeviceBroker.Proofs.Simulator.Failure

/-!
# Metrics by name and by number

A client asks for metrics by their numbers or by their names, plain or qualified
by a group. A number stands for a name if it is the number of the metric with
that name; for a name that no metric has, every number does that no metric has.
To ask by names or by the numbers that stand for them is the same: the answers
are equal, and so is all that is left of the request, down to the samples that
were counted before a metric turned out not to exist.
-/

namespace DeviceBroker

open Service

variable {cards : Nat} {α β : Type}

namespace Telemetry

/-- A metric may be asked for by either of its names. -/
def Answers (info : MetricInfo) (name : String) : Prop :=
  info.name = name ∨ info.qualifierName = name

/-- Some metric has the name. -/
def IsName (name : String) : Prop := ∃ info ∈ metrics, Answers info name

/-- The number is that of the metric with the name, or no metric has either of the two. -/
inductive StandsFor (number : UInt64) (name : String) : Prop where
  | known (info : MetricInfo) (listed : info ∈ metrics) (named : Answers info name)
      (numbered : info.number = number)
  | unknown (unnamed : ¬ IsName name) (unnumbered : ∀ info ∈ metrics, info.number ≠ number)

/-- No two metrics share a name, so the first one with a name is the one. -/
theorem number?_of_answers {info : MetricInfo} {name : String} (listed : info ∈ metrics)
    (named : Answers info name) : number? name = some info.number := by
  have hown : ∀ info ∈ metrics,
      number? info.name = some info.number ∧ number? info.qualifierName = some info.number := by
    decide +kernel
  rcases named with rfl | rfl
  · exact (hown info listed).1
  · exact (hown info listed).2

theorem number?_of_not_isName {name : String} (h : ¬ IsName name) : number? name = none := by
  rw [number?, Option.map_eq_none_iff, List.find?_eq_none]
  intro info listed hname
  refine h ⟨info, listed, ?_⟩
  simpa [Answers] using hname

theorem known_number?_iff {name : String} : known (number? name) = true ↔ IsName name := by
  by_cases h : IsName name
  · obtain ⟨info, listed, named⟩ := h
    rw [number?_of_answers listed named]
    refine iff_of_true ?_ ⟨info, listed, named⟩
    exact List.any_eq_true.mpr ⟨info, listed, beq_self_eq_true _⟩
  · rw [number?_of_not_isName h]
    exact iff_of_false Bool.false_ne_true h

theorem known_of_not_numbered {number : UInt64} (h : ∀ info ∈ metrics, info.number ≠ number) :
    known (some number) = false := by
  rw [known, Option.any_some, List.any_eq_false]
  exact fun info listed hsame => h info listed (beq_iff_eq.mp hsame)

/-- The induction runs along both lists at once, for every state of the counter. -/
theorem sampleAll_of_standsFor (card : Nat) {numbers : List UInt64} {names : List String}
    (stand : List.Forall₂ StandsFor numbers names) (r : Resource) :
    sampleAll card (names.map number?) r = sampleAll card (numbers.map some) r := by
  induction stand generalizing r with
  | nil => rfl
  | cons hfirst _ ih =>
    rw [List.map_cons, List.map_cons]
    cases hfirst with
    | known info listed named numbered =>
      rw [number?_of_answers listed named, numbered]
      simp only [sampleAll, ih]
    | unknown unnamed unnumbered =>
      rw [number?_of_not_isName unnamed, sampleAll, sampleAll,
        sample_of_not_known (known_of_not_numbered unnumbered)]

theorem map_number?_of_standsFor {numbers : List UInt64} {names : List String}
    (stand : List.Forall₂ StandsFor numbers names) (h : ∀ name ∈ names, IsName name) :
    names.map number? = numbers.map some := by
  induction stand with
  | nil => rfl
  | cons hfirst _ ih =>
    obtain ⟨hname, hrest⟩ := List.forall_mem_cons.mp h
    rw [List.map_cons, List.map_cons, ih hrest]
    cases hfirst with
    | known info listed named numbered => rw [number?_of_answers listed named, numbered]
    | unknown unnamed => exact absurd hname unnamed

/-! ## What sampling answers -/

theorem number_of_sample {card : Nat} {number : UInt64} {r r' : Resource} {metric : Metric}
    (h : sample card number r = .ok (metric, r')) : metric.number = number := by
  cases hk : known (some number) with
  | false =>
    rw [sample_of_not_known hk] at h
    cases h
  | true =>
    rcases (known_some_iff number).mp hk with rfl | rfl | rfl
    all_goals exact (congrArg (fun sampled => sampled.1.number) (Except.ok.inj h)).symm

/-- A metric that exists is sampled before the others. -/
theorem sampleAll_cons_of_known (card : Nat) {number : UInt64} (h : known (some number) = true)
    (rest : List (Option UInt64)) (r : Resource) :
    ∃ metric r', metric.number = number ∧
      sampleAll card (some number :: rest) r =
        ((sampleAll card rest r').1.map (metric :: ·), (sampleAll card rest r').2) := by
  obtain ⟨metric, hsample⟩ := sample_of_known card h r
  refine ⟨metric, bump (if some number = some (2 : UInt64) then 1 else 0) r,
    number_of_sample hsample, ?_⟩
  rw [sampleAll, hsample]
  dsimp only
  generalize sampleAll card rest _ = outcome
  obtain ⟨_ | _, _⟩ := outcome
  · rfl
  · rfl

/-- If all metrics exist, they are sampled in order. -/
theorem sampleAll_of_known (card : Nat) {asked : List (Option UInt64)}
    (h : ∀ number? ∈ asked, known number? = true) (r : Resource) :
    ∃ sampled, (sampleAll card asked r).1 = .ok sampled ∧
      sampled.map (some ∘ Metric.number) = asked := by
  induction asked generalizing r with
  | nil => exact ⟨[], rfl, rfl⟩
  | cons number? rest ih =>
    obtain ⟨hfirst, hrest⟩ := List.forall_mem_cons.mp h
    cases number? with
    | none => cases hfirst
    | some number =>
      obtain ⟨metric, r', rfl, hcons⟩ := sampleAll_cons_of_known card hfirst rest r
      obtain ⟨sampled, hsampled, hnumbers⟩ := ih hrest r'
      refine ⟨metric :: sampled, ?_, ?_⟩
      · rw [hcons, hsampled]
        rfl
      · rw [List.map_cons, hnumbers]
        rfl

/-- A metric that does not exist makes the whole answer a failure. -/
theorem sampleAll_of_not_known (card : Nat) {asked : List (Option UInt64)} {number? : Option UInt64}
    (hmem : number? ∈ asked) (h : known number? = false) (r : Resource) :
    (sampleAll card asked r).1 = .error .notFound := by
  induction asked generalizing r with
  | nil => cases hmem
  | cons first rest ih =>
    cases first with
    | none => rfl
    | some number =>
      cases hk : known (some number) with
      | false => rw [sampleAll, sample_of_not_known hk]
      | true =>
        have hrest : number? ∈ rest := (List.mem_cons.mp hmem).resolve_left fun heq => by
          rw [heq, hk] at h
          cases h
        obtain ⟨metric, r', -, hcons⟩ := sampleAll_cons_of_known card hk rest r
        rw [hcons, ih hrest r']
        rfl

end Telemetry

/-! ## Requests -/

/-- What is done with the result alone changes nothing else. -/
theorem Service.exec_bind_pure (s : Service α) (f : α → β) (b : Broker cards) :
    exec (s >>= fun value => pure (f value)) b = ((exec s b).1.map f, (exec s b).2) := by
  rw [exec_bind]
  generalize exec s b = outcome
  obtain ⟨_ | _, _⟩ := outcome
  · rfl
  · rfl

namespace Broker

variable {b : Broker cards} {id : RemoteId} {entry : HandleEntry}

/-- What a request for metrics comes to: they are sampled once, and cut to what was asked for. -/
def sampled (b : Broker cards) (native : NativeHandle) (asked : List (Option UInt64)) :
    Except Fault (List Metric) × Broker cards :=
  ((b.device.sampleMetrics native asked).1.map (List.take asked.length),
    { b with
      device := (b.device.sampleMetrics native asked).2.rig (b.device.calls + 1) b.device.armed })

theorem exec_getMetricsByName (live : (b.registry.map .handle).find? id = some entry)
    (unarmed : b.device.armed .getMetricsByName = none) (names : List String) :
    exec (Request.serve b.payloadLimit (.getMetricsByName id names)) b =
      b.sampled entry.handle (names.map Telemetry.number?) := by
  have hcall := exec_device (.getMetricsByName entry.handle names) b
  rw [Simulator.call_of_unarmed unarmed] at hcall
  refine (exec_bind_of_ok _ (exec_lookup_of_some live)).trans ((exec_bind_pure _ _ _).trans ?_)
  rw [hcall, sampled, List.length_map]
  rfl

theorem exec_getMetricsByIndex (live : (b.registry.map .handle).find? id = some entry)
    (unarmed : b.device.armed .getMetricsByIndex = none) (numbers : List UInt64) :
    exec (Request.serve b.payloadLimit (.getMetricsByIndex id numbers)) b =
      b.sampled entry.handle (numbers.map some) := by
  have hcall := exec_device (.getMetricsByIndex entry.handle numbers) b
  rw [Simulator.call_of_unarmed unarmed] at hcall
  refine (exec_bind_of_ok _ (exec_lookup_of_some live)).trans ((exec_bind_pure _ _ _).trans ?_)
  rw [hcall, sampled, List.length_map]
  rfl

theorem sampled_of_standsFor (b : Broker cards) (native : NativeHandle) {numbers : List UInt64}
    {names : List String} (stand : List.Forall₂ Telemetry.StandsFor numbers names) :
    b.sampled native (names.map Telemetry.number?) = b.sampled native (numbers.map some) := by
  unfold sampled Simulator.sampleMetrics
  simp only [Telemetry.sampleAll_of_standsFor _ stand, List.length_map, stand.length_eq]

/-- A live handle answers with all of the metrics, or that there is one that does not exist. -/
theorem sampled_fst {native : NativeHandle} {state : OpenHandle cards}
    (opened : b.device.handles.find? native = some state) (names : List String) :
    ((∀ name ∈ names, Telemetry.IsName name) ∧ ∃ metrics,
        (b.sampled native (names.map Telemetry.number?)).1 = .ok metrics ∧
        metrics.map (some ∘ Metric.number) = names.map Telemetry.number?) ∨
      ((∃ name ∈ names, ¬ Telemetry.IsName name) ∧
        (b.sampled native (names.map Telemetry.number?)).1 = .error .notFound) := by
  have hsample : (b.device.sampleMetrics native (names.map Telemetry.number?)).1 =
      (Telemetry.sampleAll state.site.card (names.map Telemetry.number?)
        (b.device.resources state.site)).1 := by
    unfold Simulator.sampleMetrics Simulator.handleOf
    rw [opened]
  unfold sampled
  rw [hsample]
  by_cases h : ∀ name ∈ names, Telemetry.IsName name
  · obtain ⟨metrics, hmetrics, hnumbers⟩ := Telemetry.sampleAll_of_known state.site.card
      (List.forall_mem_map.mpr fun name hname => Telemetry.known_number?_iff.mpr (h name hname))
      (b.device.resources state.site)
    have hlength : metrics.length = (names.map Telemetry.number?).length := by
      rw [← hnumbers, List.length_map]
    refine .inl ⟨h, metrics, ?_, hnumbers⟩
    rw [hmetrics, ← hlength]
    exact congrArg Except.ok List.take_length
  · obtain ⟨name, hname, hunknown⟩ : ∃ name ∈ names, ¬ Telemetry.IsName name := by
      simpa only [not_forall, exists_prop] using h
    refine .inr ⟨⟨name, hname, hunknown⟩, ?_⟩
    rw [Telemetry.sampleAll_of_not_known state.site.card (List.mem_map_of_mem hname)
      (Bool.eq_false_iff.mpr fun hk => hunknown (Telemetry.known_number?_iff.mp hk))]
    rfl

/-- Along every history, with no failure armed: whether a live handle is asked for metrics by
names or by numbers that stand for them, it answers with the same metrics or the same failure,
and the same is left of the request in every part of the broker. -/
theorem sameMetrics_after (source : IdSource) (images : String → Option (List UInt8))
    (limit : UInt64) (events : List Event) {id : RemoteId} {entry : HandleEntry}
    {names : List String} {numbers : List UInt64}
    (live : (((start source (.start cards images) limit).after events).registry.map .handle).find?
      id = some entry)
    (unarmed : ∀ kind,
      ((start source (.start cards images) limit).after events).device.armed kind = none)
    (stand : List.Forall₂ Telemetry.StandsFor numbers names) :
    ∃ result b',
      ((start source (.start cards images) limit).after events).handle
          (.getMetricsByName id names) = (.ofResult .getMetricsByName result, b') ∧
      ((start source (.start cards images) limit).after events).handle
          (.getMetricsByIndex id numbers) = (.ofResult .getMetricsByIndex result, b') ∧
      (((∀ name ∈ names, Telemetry.IsName name) ∧
          ∃ metrics, result = .ok metrics ∧ metrics.map Metric.number = numbers) ∨
        ((∃ name ∈ names, ¬ Telemetry.IsName name) ∧ result = .error .notFound)) := by
  have hp := provenance_after (provenance_start cards source images limit) events
  generalize (start source (.start cards images) limit).after events = b at live unarmed hp ⊢
  obtain ⟨state, opened⟩ := Option.isSome_iff_exists.mp
    (hp.opened id entry.handle (congrArg (Option.map HandleEntry.handle) live))
  have hsame := b.sampled_of_standsFor entry.handle stand
  refine ⟨(b.sampled entry.handle (names.map Telemetry.number?)).1,
    (b.sampled entry.handle (names.map Telemetry.number?)).2, ?_, ?_, ?_⟩
  · rw [handle_eq, exec_getMetricsByName live (unarmed _)]
  · rw [handle_eq, exec_getMetricsByIndex live (unarmed _), hsame]
  · refine (sampled_fst opened names).imp_left fun ⟨hall, metrics, hmetrics, hnumbers⟩ => ?_
    rw [Telemetry.map_number?_of_standsFor stand hall, ← List.map_map] at hnumbers
    exact ⟨hall, metrics, hmetrics,
      List.map_injective_iff.mpr (fun _ _ => Option.some.inj) hnumbers⟩

/-- An accelerator is open. -/
def portOpened : Broker 1 :=
  (start (.seeded 7) (.start 1 fun _ => none) 4096).after
    [.serve (.enumerate [] 2), .serve (.openHandle ⟨7, 2⟩ 0)]

/-- A metric that is counted is asked for by both of its names, and then one that does not
exist. The request fails, and both samples stay counted. -/
theorem sameMetrics_after_portOpened :
    (portOpened.registry.map .handle).find? ⟨7, 3⟩ = some ⟨⟨0x20000000⟩, ⟨7, 2⟩⟩ ∧
    (∀ kind, portOpened.device.armed kind = none) ∧
    List.Forall₂ Telemetry.StandsFor [2, 2, 99, 0]
      ["cache_read_hit", "performance:cache_read_hit", "fan_speed", "consumed"] ∧
    ∃ b',
      portOpened.handle (.getMetricsByName ⟨7, 3⟩
          ["cache_read_hit", "performance:cache_read_hit", "fan_speed", "consumed"]) =
        (.ofResult .getMetricsByName (.error .notFound), b') ∧
      portOpened.handle (.getMetricsByIndex ⟨7, 3⟩ [2, 2, 99, 0]) =
        (.ofResult .getMetricsByIndex (.error .notFound), b') ∧
      (b'.device.resources ⟨0, .accelerator⟩).samples = 2 := by
  have hunnamed : ¬ Telemetry.IsName "fan_speed" := by
    unfold Telemetry.IsName Telemetry.Answers
    decide +kernel
  have hlisted (i : Fin Telemetry.metrics.length) : Telemetry.metrics.get i ∈ Telemetry.metrics :=
    List.get_mem _ _
  have hcounted := hlisted ⟨2, by decide⟩
  have stand : List.Forall₂ Telemetry.StandsFor [2, 2, 99, 0]
      ["cache_read_hit", "performance:cache_read_hit", "fan_speed", "consumed"] :=
    .cons (.known _ hcounted (.inl rfl) rfl) <|
      .cons (.known _ hcounted (.inr (by decide +kernel)) rfl) <|
        .cons (.unknown hunnamed (by decide)) <|
          .cons (.known _ (hlisted ⟨0, by decide⟩) (.inl rfl) rfl) .nil
  have live : (portOpened.registry.map .handle).find? ⟨7, 3⟩ = some ⟨⟨0x20000000⟩, ⟨7, 2⟩⟩ := rfl
  obtain ⟨result, b', hname, hindex, ⟨hall, -⟩ | ⟨-, rfl⟩⟩ := sameMetrics_after (.seeded 7)
    (fun _ => none) 4096 [.serve (.enumerate [] 2), .serve (.openHandle ⟨7, 2⟩ 0)] live
    (fun _ => rfl) stand
  · exact absurd (hall "fan_speed" (by decide)) hunnamed
  · obtain rfl : (portOpened.handle (.getMetricsByIndex ⟨7, 3⟩ [2, 2, 99, 0])).2 = b' :=
      congrArg Prod.snd hindex
    exact ⟨live, fun _ => rfl, stand, _, hname, hindex, rfl⟩

end Broker

end DeviceBroker
