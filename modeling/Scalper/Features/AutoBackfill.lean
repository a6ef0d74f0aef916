import Scalper.Features.Warmup
import Scalper.Lib.Writes

/-!
# The automatic backfill

On every start the feature engine looks up each registered feature among the marks of the features
it has backfilled before, and starts a task for each that has none.  A task reads the candles of its
window, writes a row for each candle from its warmup on, and puts the mark when it has come to the
end; what is raised on the way, and a stop, end it without the mark.  The live pipeline writes rows
beside the tasks, of the features of the one-minute keys.

Left alone, a task of a one-minute feature is a run of the script, and puts the mark exactly if the
script raises nothing (`undisturbed_eq_script`).  Whatever happens beside it, a mark stands for a
backfill that has computed each candle of its window from the warmup on, and whose rows are all in
the table (`marked_complete`).  And a feature of another interval gets its rows from these tasks
alone: from its mark on its rows are as they are, in any later start (`marked_frozen`).  Left out is
the retention policy of migration 0004, which drops rows of `features` after 180 days.
-/

set_option autoImplicit false

namespace Scalper.Features

open Scalper.Lib

/-! ## The tasks -/

/-- `INTERVAL_DELTA`, in microseconds. -/
def intervalLength (interval : String) : Option ℕ :=
  (Scoring.intervalDelta interval).map (· * 1000000)

/-- `fetch_ohlc_range`, of any interval that has a table. -/
def fetchOhlcRangeOf (stored : List OhlcCandle) (key : Key) (fromDt toDt : ℕ) :
    Option (List OhlcCandle) :=
  if key.2 ∈ storedIntervals then
    some (((storedRows key stored).filter fun candle =>
      fromDt ≤ candle.bucketStart ∧ candle.bucketStart ≤ toDt).insertionSort fun earlier later =>
        earlier.bucketStart ≤ later.bucketStart)
  else none

/-- Where a `_backfill_and_mark` is: before its read, before the next candle of its loop, before its
mark, or at its end.  `now` is its reading of the clock, `done` are the candles it has passed. -/
inductive BackfillStage where
  | reading
  | looping (now : ℕ) (done rest : List OhlcCandle)
  | marking (now : ℕ) (done : List OhlcCandle)
  | ended

/-- A `_backfill_and_mark` and its arguments. -/
structure BackfillTask where
  key : Key
  featureName : String
  feature : Feature
  stage : BackfillStage := .reading

section Rows

variable (float : ℚ → ℚ) (jsonText : List (String × SubValue) → String)

/-- What the loop makes of the next candle: nothing while the deque fills, or a row; the task ends
where something is raised. -/
def BackfillTask.row (task : BackfillTask) (done : List OhlcCandle) (candle : OhlcCandle) :
    Option (Option FeatureUpdate) :=
  let buf := (Deque.empty task.feature.warmupCandles).appendAll (done ++ [candle])
  if buf.items.length < task.feature.warmupCandles then some none
  else
    match task.feature.compute buf.items, intervalLength task.key.2 with
    | .ok value, some length =>
        some (some ⟨task.featureName, task.key.1, candle.bucketStart + length,
          backfillValue float jsonText value, task.feature.sourceVersion⟩)
    | _, _ => none

end Rows

/-! ## The engine and its stores -/

/-- The tables, the bucket `feature_registry_seen`, and the engine: the features of the one that
runs, those it has yet to look up, and its tasks. -/
structure FeatureHistory where
  stored : List OhlcCandle
  features : List FeatureUpdate := []
  marks : String → Option ℕ := fun _ => none
  registered : FeaturesByKey := []
  pending : List BackfillTask := []
  tasks : List BackfillTask := []

/-- What happens: a candle is stored, the engine starts or stops, the live pipeline writes a value,
the next feature is looked up, or a task goes on. -/
inductive HistoryStep where
  | stores (candle : OhlcCandle)
  | starts (featuresByKey : FeaturesByKey)
  | emits (i : ℕ) (candle : OhlcCandle) (value : FeatureValue) (result : WriteResult)
  | detects (answered : Bool)
  | advances (i : ℕ) (now : ℕ) (result : WriteResult)
  | stops

/-- The entries of a mapping, each with the task that it may come to. -/
def tasksOf (featuresByKey : FeaturesByKey) : List BackfillTask :=
  featuresByKey.flatMap fun entry => entry.2.map fun named =>
    { key := entry.1, featureName := named.1, feature := named.2 }

namespace FeatureHistory

/-- A row is written, if the write takes effect. -/
def insert (row : FeatureUpdate) (result : WriteResult) (s : FeatureHistory) : FeatureHistory :=
  if result.takes then { s with features := insertFeature s.features row } else s

/-- A task goes on. -/
def enter (i : ℕ) (task : BackfillTask) (stage : BackfillStage) (s : FeatureHistory) :
    FeatureHistory :=
  { s with tasks := s.tasks.set i { task with stage } }

/-- A feature is marked as seen, if the write takes effect. -/
def mark (featureName : String) (now : ℕ) (result : WriteResult) (s : FeatureHistory) :
    FeatureHistory :=
  if result.takes then { s with marks := Function.update s.marks featureName (some now) } else s

/-- The rows of a feature. -/
def rowsOf (featureName : String) (s : FeatureHistory) : List FeatureUpdate :=
  s.features.filter fun row => row.featureName = featureName

end FeatureHistory

section Steps

variable (float : ℚ → ℚ) (jsonText : List (String × SubValue) → String) (window : ℕ)

/-- `_backfill_and_mark`, up to its next wait.  The clock may be read long before the rows are, and
`now` is any time. -/
def backfillAndMark (i : ℕ) (task : BackfillTask) (now : ℕ) (result : WriteResult)
    (s : FeatureHistory) : FeatureHistory :=
  match task.stage with
  | .reading =>
      match result.heard, fetchOhlcRangeOf s.stored task.key (now - window) now with
      | true, some rows => s.enter i task (.looping now [] rows)
      | _, _ => s.enter i task .ended
  | .looping began done [] => s.enter i task (.marking began done)
  | .looping began done (candle :: rest) =>
      match task.row float jsonText done candle with
      | none => s.enter i task .ended
      | some none => s.enter i task (.looping began (done ++ [candle]) rest)
      | some (some row) =>
          (s.insert row result).enter i task
            (if result.heard then .looping began (done ++ [candle]) rest else .ended)
  | .marking began _ => (s.mark task.featureName began result).enter i task .ended
  | .ended => s

/-- A step.  A look-up that raises ends the start, and with it the engine and its tasks. -/
def historyStep : HistoryStep → FeatureHistory → FeatureHistory
  | .stores candle, s => { s with stored := upsert OhlcCandle.rowKey candle s.stored }
  | .starts featuresByKey, s =>
      { s with registered := featuresByKey, pending := tasksOf featuresByKey, tasks := [] }
  | .emits i candle value result, s =>
      match (s.registered.get (candle.symbol, "1m"))[i]? with
      | none => s
      | some named => s.insert (buildUpdate float jsonText named.1 named.2 value candle) result
  | .detects answered, s =>
      match s.pending with
      | [] => s
      | task :: pending =>
          if answered then
            match s.marks task.featureName with
            | none => { s with pending, tasks := s.tasks ++ [task] }
            | some _ => { s with pending }
          else { s with registered := [], pending := [], tasks := [] }
  | .advances i now result, s =>
      match s.tasks[i]? with
      | none => s
      | some task => backfillAndMark float jsonText window i task now result s
  | .stops, s => { s with registered := [], pending := [], tasks := [] }

end Steps

/-! ## A task that nothing disturbs -/

section Undisturbed

variable {float : ℚ → ℚ} {jsonText : List (String × SubValue) → String} {window now : ℕ}
  {s : FeatureHistory} {task : BackfillTask} {i : ℕ}

theorem run_advances_of_ended (here : s.tasks[i]? = some task) (ended : task.stage = .ended)
    (n : ℕ) : run (historyStep float jsonText window) s (List.replicate n (.advances i now .done)) =
      s := by
  have stays : historyStep float jsonText window (.advances i now .done) s = s := by
    simp only [historyStep, here, backfillAndMark, ended]
  induction n with
  | zero => rfl
  | succ n ih => rw [List.replicate_succ, run_cons, stays, ih]

theorem getElem?_enter (here : s.tasks[i]? = some task) (stage : BackfillStage) :
    (s.enter i task stage).tasks[i]? = some { task with stage } :=
  List.getElem?_set_self (List.getElem?_eq_some_iff.mp here).1

/-- The last step of a task puts the mark. -/
theorem advances_of_marking {began : ℕ} {done : List OhlcCandle} (here : s.tasks[i]? = some task)
    (marking : task.stage = .marking began done) :
    historyStep float jsonText window (.advances i now .done) s =
      (s.mark task.featureName began .done).enter i task .ended := by
  simp only [historyStep, here, backfillAndMark, marking]

/-- What is left of the loop and the mark, when no write fails. -/
theorem run_advances_of_looping (minute : task.key.2 = "1m") (began inserted : ℕ)
    (rest : List OhlcCandle) : ∀ {s : FeatureHistory} (done : List OhlcCandle),
      s.tasks[i]? = some { task with stage := .looping began done rest } →
      let script := backfillLoop float jsonText task.featureName task.key.1 task.feature
        ((Deque.empty task.feature.warmupCandles).appendAll done) inserted s.features rest
      let after := run (historyStep float jsonText window) s
        (List.replicate (rest.length + 2) (.advances i now .done))
      after.features = script.2 ∧ after.marks =
        if script.1.isOk then Function.update s.marks task.featureName (some began) else s.marks := by
  induction rest generalizing inserted with
  | nil =>
      intro s done here
      have marking := getElem?_enter here (.marking began done)
      have first : historyStep float jsonText window (.advances i now .done) s =
          s.enter i { task with stage := .looping began done [] } (.marking began done) := by
        simp only [historyStep, here, backfillAndMark]
      rw [List.length_nil, List.replicate_succ, run_cons, first, List.replicate_succ, run_cons,
        advances_of_marking marking rfl]
      exact ⟨rfl, rfl⟩
  | cons candle rest ih =>
      intro s done here
      have known : intervalLength task.key.2 = some oneMinute := by rw [minute]; rfl
      have next (t : FeatureHistory) (stage : BackfillStage) (same : t.tasks = s.tasks) :=
        getElem?_enter (same ▸ here : t.tasks[i]? = _) stage
      rw [List.length_cons, Nat.add_right_comm, List.replicate_succ, run_cons, backfillLoop,
        ← Deque.appendAll_concat]
      simp only [historyStep, here, backfillAndMark, BackfillTask.row, known]
      by_cases short : ((Deque.empty task.feature.warmupCandles).appendAll
          (done ++ [candle])).items.length < task.feature.warmupCandles
      · simp only [if_pos short]
        exact ih inserted (done ++ [candle]) (next s _ rfl)
      · simp only [if_neg short]
        cases computed : task.feature.compute ((Deque.empty task.feature.warmupCandles).appendAll
            (done ++ [candle])).items with
        | error raised =>
            simp only
            rw [run_advances_of_ended (next s _ rfl) rfl]
            exact ⟨rfl, rfl⟩
        | ok value =>
            simp only
            exact ih (inserted + 1) (done ++ [candle]) (next _ _ rfl)

/-- **A task of a one-minute feature that nothing disturbs is a run of the script**: the table is
that of `_backfill_one_feature`, and the mark is put exactly if the script raises nothing. -/
theorem undisturbed_eq_script (minute : task.key.2 = "1m") (here : s.tasks[i]? = some task)
    (fresh : task.stage = .reading) {rows : List OhlcCandle}
    (fetched : fetchOhlcRangeOf s.stored task.key (now - window) now = some rows) :
    let script := backfillLoop float jsonText task.featureName task.key.1 task.feature
      (.empty task.feature.warmupCandles) 0 s.features rows
    let after := run (historyStep float jsonText window) s
      (List.replicate (rows.length + 3) (.advances i now .done))
    after.features = script.2 ∧ after.marks =
      if script.1.isOk then Function.update s.marks task.featureName (some now) else s.marks := by
  have first : historyStep float jsonText window (.advances i now .done) s =
      s.enter i task (.looping now [] rows) := by
    simp only [historyStep, here, backfillAndMark, fresh, WriteResult.heard, fetched]
  rw [show rows.length + 3 = rows.length + 2 + 1 from rfl, List.replicate_succ, run_cons, first]
  exact run_advances_of_looping minute now 0 rows [] (getElem?_enter here _)

/-- Two candles are read, and the second one is computed. -/
theorem twoCloses_eq_script :
    let script := backfillLoop id (fun _ => "") "ind.btcusdt.1m.ema_2" "BTCUSDT"
      (EmaFeature.toFeature ⟨2, Nat.two_pos, "1m"⟩) (.empty 2) 0 [] twoStored
    let after := run (historyStep id (fun _ => "") 2592000000000)
      { stored := twoStored, tasks := tasksOf twoCloses }
      (List.replicate 5 (.advances 0 120000000 .done))
    after.features = script.2 ∧ after.marks =
      if script.1.isOk then
        Function.update (fun _ => none) "ind.btcusdt.1m.ema_2" (some 120000000)
      else fun _ => none :=
  @undisturbed_eq_script id (fun _ => "") 2592000000000 120000000
    { stored := twoStored, tasks := tasksOf twoCloses }
    { key := ("BTCUSDT", "1m"), featureName := "ind.btcusdt.1m.ema_2"
      feature := EmaFeature.toFeature ⟨2, Nat.two_pos, "1m"⟩ } 0 rfl rfl rfl twoStored rfl

end Undisturbed

/-! ## What the loop has passed -/

section Covered

variable {float : ℚ → ℚ} {jsonText : List (String × SubValue) → String}
  {features later : List FeatureUpdate} {task : BackfillTask} {done : List OhlcCandle}
  {candle : OhlcCandle}

/-- Each of the candles from the warmup on has been computed, and there is a row for it. -/
def Covered (features : List FeatureUpdate) (task : BackfillTask) (done : List OhlcCandle) : Prop :=
  ∀ before candle, before ++ [candle] <+: done →
    task.feature.warmupCandles ≤ (before ++ [candle]).length →
      ∃ value length,
        task.feature.compute ((before ++ [candle]).rtake task.feature.warmupCandles) = .ok value ∧
        intervalLength task.key.2 = some length ∧
        (task.featureName, task.key.1, candle.bucketStart + length, task.feature.sourceVersion) ∈
          features.map FeatureUpdate.key

theorem covered_nil (features : List FeatureUpdate) (task : BackfillTask) :
    Covered features task [] := by
  intro before candle within
  have empty := List.prefix_nil.mp within
  exact absurd empty (by simp)

theorem Covered.mono (covered : Covered features task done)
    (more : features.map FeatureUpdate.key ⊆ later.map FeatureUpdate.key) :
    Covered later task done := by
  intro before candle within full
  obtain ⟨value, length, computed, known, held⟩ := covered before candle within full
  exact ⟨value, length, computed, known, more held⟩

/-- A candle for which nothing is written. -/
theorem Covered.concat_of_short (covered : Covered features task done)
    (short : (done ++ [candle]).length < task.feature.warmupCandles) :
    Covered features task (done ++ [candle]) := by
  intro before next within full
  rcases List.prefix_concat_iff.mp within with same | earlier
  · rw [same] at full
    omega
  · exact covered before next earlier full

/-- A candle for which a row is written. -/
theorem Covered.concat (covered : Covered features task done) {value : FeatureValue} {length : ℕ}
    (computed : task.feature.compute ((done ++ [candle]).rtake task.feature.warmupCandles) =
      .ok value) (known : intervalLength task.key.2 = some length)
    (held : (task.featureName, task.key.1, candle.bucketStart + length,
      task.feature.sourceVersion) ∈ features.map FeatureUpdate.key) :
    Covered features task (done ++ [candle]) := by
  intro before next within full
  rcases List.prefix_concat_iff.mp within with same | earlier
  · obtain ⟨rfl, last⟩ := List.append_inj' same rfl
    obtain rfl := List.singleton_inj.mp last
    exact ⟨value, length, computed, known, held⟩
  · exact covered before next earlier full

/-- What the loop makes of a candle. -/
theorem row_eq_some {made : Option FeatureUpdate}
    (gives : task.row float jsonText done candle = some made) :
    (made = none ∧ (done ++ [candle]).length < task.feature.warmupCandles) ∨
      ∃ value length row, made = some row ∧
        task.feature.compute ((done ++ [candle]).rtake task.feature.warmupCandles) = .ok value ∧
        intervalLength task.key.2 = some length ∧
        row.key = (task.featureName, task.key.1, candle.bucketStart + length,
          task.feature.sourceVersion) := by
  have size := length_rtake task.feature.warmupCandles (done ++ [candle])
  unfold BackfillTask.row at gives
  simp only [Deque.items_appendAll] at gives
  split_ifs at gives with short
  · exact .inl ⟨(Option.some.inj gives).symm, by omega⟩
  · split at gives
    · next value length computed known =>
        exact .inr ⟨value, length, _, (Option.some.inj gives).symm, computed, known, rfl⟩
    · cases gives

theorem subset_keys_insertFeature (row : FeatureUpdate) :
    features.map FeatureUpdate.key ⊆ (insertFeature features row).map FeatureUpdate.key :=
  fun _ held => mem_map_key_upsert.mpr (.inl held)

end Covered

/-! ## What a mark stands for -/

section Accounts

variable {float : ℚ → ℚ} {jsonText : List (String × SubValue) → String} {window : ℕ}
  {known : BackfillTask → Prop} {past : List OhlcCandle → Prop}
  {s : FeatureHistory} {task : BackfillTask} {done : List OhlcCandle}

/-- The candles of the window of a task were these, at one of the tables there have been. -/
def ReadAt (past : List OhlcCandle → Prop) (window : ℕ) (task : BackfillTask) (now : ℕ)
    (rows : List OhlcCandle) : Prop :=
  ∃ stored, past stored ∧ fetchOhlcRangeOf stored task.key (now - window) now = some rows

/-- What holds of a task at its stage. -/
def StageCovered (past : List OhlcCandle → Prop) (window : ℕ) (features : List FeatureUpdate)
    (task : BackfillTask) : Prop :=
  match task.stage with
  | .looping now done rest =>
      ReadAt past window task now (done ++ rest) ∧ Covered features task done
  | .marking now done => ReadAt past window task now done ∧ Covered features task done
  | _ => True

/-- The tasks are those of known entries, what they have passed is covered, and a mark is that of a
known entry whose window is covered. -/
structure Accounts (known : BackfillTask → Prop) (past : List OhlcCandle → Prop) (window : ℕ)
    (s : FeatureHistory) : Prop where
  pending : ∀ task ∈ s.pending, known task ∧ task.stage = .reading
  tasks : ∀ task ∈ s.tasks, known { task with stage := .reading } ∧
    StageCovered past window s.features task
  marks : ∀ name now, s.marks name = some now → ∃ task rows, known task ∧
    task.featureName = name ∧ ReadAt past window task now rows ∧ Covered s.features task rows

theorem StageCovered.mono {features later : List FeatureUpdate}
    (covered : StageCovered past window features task)
    (more : features.map FeatureUpdate.key ⊆ later.map FeatureUpdate.key) :
    StageCovered past window later task := by
  unfold StageCovered at covered ⊢
  split at covered
  · exact ⟨covered.1, covered.2.mono more⟩
  · exact ⟨covered.1, covered.2.mono more⟩
  · trivial

theorem Accounts.insert (accounts : Accounts known past window s) (row : FeatureUpdate)
    (result : WriteResult) : Accounts known past window (s.insert row result) := by
  unfold FeatureHistory.insert
  split_ifs with takes
  · have more : s.features.map FeatureUpdate.key ⊆
        (insertFeature s.features row).map FeatureUpdate.key := subset_keys_insertFeature row
    refine ⟨accounts.pending, fun task among => ?_, fun name now marked => ?_⟩
    · obtain ⟨registered, covered⟩ := accounts.tasks task among
      exact ⟨registered, covered.mono more⟩
    · obtain ⟨task, rows, registered, named, read, covered⟩ := accounts.marks name now marked
      exact ⟨task, rows, registered, named, read, covered.mono more⟩
  · exact accounts

theorem Accounts.enter (accounts : Accounts known past window s) (i : ℕ) {stage : BackfillStage}
    (registered : known { task with stage := .reading })
    (covered : StageCovered past window s.features { task with stage }) :
    Accounts known past window (s.enter i task stage) := by
  refine ⟨accounts.pending, fun other among => ?_, accounts.marks⟩
  rcases List.mem_or_eq_of_mem_set among with old | rfl
  · exact accounts.tasks other old
  · exact ⟨registered, covered⟩

theorem Accounts.mark (accounts : Accounts known past window s) {now : ℕ}
    (registered : known { task with stage := .reading })
    (read : ReadAt past window task now done) (covered : Covered s.features task done)
    (result : WriteResult) :
    Accounts known past window (s.mark task.featureName now result) := by
  unfold FeatureHistory.mark
  split_ifs with takes
  · refine ⟨accounts.pending, accounts.tasks, fun name time marked => ?_⟩
    dsimp only at marked
    by_cases same : name = task.featureName
    · subst same
      rw [Function.update_self] at marked
      obtain rfl := Option.some.inj marked
      exact ⟨_, done, registered, rfl, read, covered⟩
    · rw [Function.update_of_ne same] at marked
      exact accounts.marks name time marked
  · exact accounts

theorem accounts_backfillAndMark (accounts : Accounts known past window s) (now_is : past s.stored)
    {i : ℕ} (here : s.tasks[i]? = some task) (now : ℕ) (result : WriteResult) :
    Accounts known past window (backfillAndMark float jsonText window i task now result s) := by
  obtain ⟨registered, covered⟩ := accounts.tasks task (List.mem_of_getElem? here)
  obtain ⟨key, featureName, feature, stage⟩ := task
  cases stage with
  | reading =>
      simp only [backfillAndMark]
      split
      · next rows _ fetched =>
          exact accounts.enter i registered ⟨⟨s.stored, now_is, fetched⟩, covered_nil _ _⟩
      · exact accounts.enter i registered trivial
  | ended => exact accounts
  | marking began done =>
      exact (accounts.mark registered covered.1 covered.2 result).enter i registered trivial
  | looping began done rest =>
      obtain ⟨read, covered⟩ := covered
      cases rest with
      | nil =>
          rw [List.append_nil] at read
          exact accounts.enter i registered ⟨read, covered⟩
      | cons candle rest =>
          rw [List.append_cons] at read
          simp only [backfillAndMark]
          cases gives : BackfillTask.row float jsonText
              ⟨key, featureName, feature, .looping began done (candle :: rest)⟩ done candle with
          | none => exact accounts.enter i registered trivial
          | some made =>
              rcases row_eq_some gives with
                ⟨rfl, short⟩ | ⟨value, length, row, rfl, computed, seconds, keyed⟩
              · exact accounts.enter i registered ⟨read, Covered.concat_of_short covered short⟩
              · refine (accounts.insert row result).enter i registered ?_
                cases result with
                | failed => trivial
                | unheard => trivial
                | done =>
                    have held : row.key ∈ (insertFeature s.features row).map FeatureUpdate.key :=
                      mem_map_key_upsert.mpr (.inr rfl)
                    rw [keyed] at held
                    have before := Covered.mono covered (subset_keys_insertFeature row)
                    exact ⟨read, Covered.concat before computed seconds held⟩

theorem accounts_step (step : HistoryStep) (accounts : Accounts known past window s)
    (now_is : past s.stored)
    (registers : ∀ featuresByKey, step = .starts featuresByKey →
      ∀ task ∈ tasksOf featuresByKey, known task) :
    Accounts known past window (historyStep float jsonText window step s) := by
  have none_running :
      Accounts known past window { s with registered := [], pending := [], tasks := [] } :=
    ⟨fun task among => absurd among List.not_mem_nil,
      fun task among => absurd among List.not_mem_nil, accounts.marks⟩
  cases step with
  | stores candle => exact ⟨accounts.pending, accounts.tasks, accounts.marks⟩
  | starts featuresByKey =>
      refine ⟨fun task among => ⟨registers featuresByKey rfl task among, ?_⟩,
        none_running.tasks, accounts.marks⟩
      obtain ⟨entry, _, of_entry⟩ := List.mem_flatMap.mp among
      obtain ⟨named, _, rfl⟩ := List.mem_map.mp of_entry
      rfl
  | stops => exact none_running
  | emits i candle value result =>
      simp only [historyStep]
      split
      · exact accounts
      · exact accounts.insert _ result
  | detects answered =>
      simp only [historyStep]
      split
      · exact accounts
      · next task pending waiting =>
          obtain ⟨⟨registered, fresh⟩, others⟩ :=
            List.forall_mem_cons.mp (waiting ▸ accounts.pending)
          split_ifs
          · split
            · refine ⟨others, fun other among => ?_, accounts.marks⟩
              rcases List.mem_append.mp among with old | new
              · exact accounts.tasks other old
              · obtain rfl := List.mem_singleton.mp new
                obtain ⟨key, featureName, feature, stage⟩ := other
                subst fresh
                exact ⟨registered, trivial⟩
            · exact ⟨others, accounts.tasks, accounts.marks⟩
          · exact none_running
  | advances i now result =>
      simp only [historyStep]
      split
      · exact accounts
      · next task here => exact accounts_backfillAndMark accounts now_is here now result

/-- What is known of a run, and the tables it has had, only grow with it. -/
theorem Accounts.mono {known' : BackfillTask → Prop} {past' : List OhlcCandle → Prop}
    (accounts : Accounts known past window s) (more : ∀ task, known task → known' task)
    (longer : ∀ stored, past stored → past' stored) : Accounts known' past' window s := by
  have reread {task : BackfillTask} {now : ℕ} {rows : List OhlcCandle} :
      ReadAt past window task now rows → ReadAt past' window task now rows :=
    fun ⟨stored, held, fetched⟩ => ⟨stored, longer stored held, fetched⟩
  refine ⟨fun task among => ?_, fun task among => ?_, fun name now marked => ?_⟩
  · obtain ⟨registered, fresh⟩ := accounts.pending task among
    exact ⟨more _ registered, fresh⟩
  · obtain ⟨registered, covered⟩ := accounts.tasks task among
    refine ⟨more _ registered, ?_⟩
    unfold StageCovered at covered ⊢
    split at covered
    · exact ⟨reread covered.1, covered.2⟩
    · exact ⟨reread covered.1, covered.2⟩
    · trivial
  · obtain ⟨task, rows, registered, named, read, covered⟩ := accounts.marks name now marked
    exact ⟨task, rows, more _ registered, named, reread read, covered⟩

/-- The entry of one of the starts. -/
def RegisteredIn (steps : List HistoryStep) (task : BackfillTask) : Prop :=
  ∃ featuresByKey, HistoryStep.starts featuresByKey ∈ steps ∧ task ∈ tasksOf featuresByKey

/-- A table that a run has had on its way. -/
def StoredIn (step : HistoryStep → FeatureHistory → FeatureHistory) (stored : List OhlcCandle)
    (steps : List HistoryStep) (held : List OhlcCandle) : Prop :=
  ∃ before, before <+: steps ∧ (run step { stored } before).stored = held

theorem accounts_run (stored : List OhlcCandle) (steps : List HistoryStep) :
    Accounts (RegisteredIn steps) (StoredIn (historyStep float jsonText window) stored steps) window
      (run (historyStep float jsonText window) { stored } steps) := by
  induction steps using List.reverseRecOn with
  | nil =>
      exact ⟨fun task among => absurd among List.not_mem_nil,
        fun task among => absurd among List.not_mem_nil, fun name now marked => nomatch marked⟩
  | append_singleton steps step ih =>
      rw [run_concat]
      refine accounts_step step (ih.mono ?_ ?_) ?_ ?_
      · rintro task ⟨featuresByKey, started, among⟩
        exact ⟨featuresByKey, List.mem_append_left _ started, among⟩
      · rintro held ⟨before, within, rfl⟩
        exact ⟨before, within.trans (List.prefix_append _ _), rfl⟩
      · exact ⟨steps, List.prefix_append _ _, rfl⟩
      · rintro featuresByKey rfl task among
        exact ⟨featuresByKey, List.mem_append_right _ List.mem_cons_self, among⟩

/-- **A mark stands for a whole backfill**: of a registered feature, over the candles its window had
at some point of the run, each of which it has computed from the warmup on, with a row in the table
that is there still. -/
theorem marked_complete {stored : List OhlcCandle} {steps : List HistoryStep} {name : String}
    {now : ℕ} (marked : (run (historyStep float jsonText window) { stored } steps).marks name =
      some now) :
    ∃ task rows, RegisteredIn steps task ∧ task.featureName = name ∧
      ReadAt (StoredIn (historyStep float jsonText window) stored steps) window task now rows ∧
      Covered (run (historyStep float jsonText window) { stored } steps).features task rows :=
  (accounts_run stored steps).marks name now marked

end Accounts

/-! ## The rows of a marked feature -/

section Frozen

variable {float : ℚ → ℚ} {jsonText : List (String × SubValue) → String} {window : ℕ}
  {name : String} {s : FeatureHistory} {task : BackfillTask} {i : ℕ}

/-- The features of a start have names of their own, and this one is under no one-minute key. -/
def NamedApart (name : String) : HistoryStep → Prop
  | .starts featuresByKey => ((tasksOf featuresByKey).map BackfillTask.featureName).Nodup ∧
      ∀ symbol, ∀ named ∈ featuresByKey.get (symbol, "1m"), named.1 ≠ name
  | _ => True

/-- A feature has one task at most, which has ended once the feature is marked, and the live
pipeline does not compute it. -/
structure Alone (name : String) (s : FeatureHistory) : Prop where
  distinct : ((s.pending ++ s.tasks).map BackfillTask.featureName).Nodup
  ended : s.marks name ≠ none → ∀ task ∈ s.tasks, task.featureName = name → task.stage = .ended
  registered : ∀ symbol, ∀ named ∈ s.registered.get (symbol, "1m"), named.1 ≠ name

/-- A write touches the rows only. -/
theorem exists_insert_eq (row : FeatureUpdate) (result : WriteResult) (s : FeatureHistory) :
    ∃ features, s.insert row result = { s with features } := by
  unfold FeatureHistory.insert
  split_ifs
  · exact ⟨_, rfl⟩
  · exact ⟨s.features, rfl⟩

theorem rowsOf_insert_of_ne {row : FeatureUpdate} (other : row.featureName ≠ name)
    (result : WriteResult) : (s.insert row result).rowsOf name = s.rowsOf name := by
  unfold FeatureHistory.insert FeatureHistory.rowsOf
  split_ifs
  · have onKey (x y : FeatureUpdate) (same : x.key = y.key) :
        decide (x.featureName = name) = decide (y.featureName = name) := by
      rw [show x.featureName = y.featureName from congrArg Prod.fst same]
    dsimp only
    rw [insertFeature, filter_upsert onKey, if_neg (by simpa using other)]
  · rfl

/-- A task has ended; or it goes on, and writes at most a row of its feature; or it ends with the
mark. -/
theorem backfillAndMark_cases (i : ℕ) (task : BackfillTask) (now : ℕ) (result : WriteResult)
    (s : FeatureHistory) :
    (task.stage = .ended ∧ backfillAndMark float jsonText window i task now result s = s) ∨
    (task.stage ≠ .ended ∧ ∃ stage t,
      (t = s ∨
        ∃ row : FeatureUpdate, row.featureName = task.featureName ∧ t = s.insert row result) ∧
      backfillAndMark float jsonText window i task now result s = t.enter i task stage) ∨
    ∃ began, backfillAndMark float jsonText window i task now result s =
      (s.mark task.featureName began result).enter i task .ended := by
  obtain ⟨key, featureName, feature, stage⟩ := task
  cases stage with
  | ended => exact .inl ⟨rfl, rfl⟩
  | marking began done => exact .inr (.inr ⟨began, rfl⟩)
  | reading =>
      refine .inr (.inl ⟨nofun, ?_⟩)
      simp only [backfillAndMark]
      split
      · exact ⟨_, s, .inl rfl, rfl⟩
      · exact ⟨_, s, .inl rfl, rfl⟩
  | looping began done rest =>
      refine .inr (.inl ⟨nofun, ?_⟩)
      cases rest with
      | nil => exact ⟨_, s, .inl rfl, rfl⟩
      | cons candle rest =>
          simp only [backfillAndMark]
          split
          · exact ⟨_, s, .inl rfl, rfl⟩
          · exact ⟨_, s, .inl rfl, rfl⟩
          · next row gives =>
              refine ⟨_, _, .inr ⟨row, ?_, rfl⟩, rfl⟩
              rcases row_eq_some gives with ⟨impossible, _⟩ | ⟨_, _, made, same, _, _, keyed⟩
              · cases impossible
              · obtain rfl := Option.some.inj same
                exact congrArg Prod.fst keyed

/-- A task keeps its name. -/
theorem map_featureName_set {tasks : List BackfillTask} (here : tasks[i]? = some task)
    (stage : BackfillStage) :
    (tasks.set i { task with stage }).map BackfillTask.featureName =
      tasks.map BackfillTask.featureName := by
  obtain ⟨within, rfl⟩ := List.getElem?_eq_some_iff.mp here
  have within_names : i < (tasks.map BackfillTask.featureName).length := by
    rwa [List.length_map]
  have same : tasks[i].featureName = (tasks.map BackfillTask.featureName)[i] :=
    (List.getElem_map _).symm
  rw [List.map_set]
  dsimp only
  rw [same, List.set_getElem_self]

theorem Alone.enter (alone : Alone name s) (here : s.tasks[i]? = some task)
    (running : task.stage ≠ .ended) (stage : BackfillStage) :
    Alone name (s.enter i task stage) := by
  refine ⟨?_, fun marked other among named => ?_, alone.registered⟩
  · have distinct := alone.distinct
    rw [List.map_append] at distinct ⊢
    rwa [FeatureHistory.enter, map_featureName_set here]
  · rcases List.mem_or_eq_of_mem_set among with old | rfl
    · exact alone.ended marked other old named
    · exact absurd (alone.ended marked task (List.mem_of_getElem? here) named) running

/-- A task that ends, with a mark of its own feature or none. -/
theorem Alone.enter_ended {marks : String → Option ℕ} (alone : Alone name s)
    (here : s.tasks[i]? = some task)
    (others : name ≠ task.featureName → marks name = s.marks name) :
    Alone name ({ s with marks }.enter i task .ended) := by
  have distinct : ((s.pending ++ s.tasks.set i { task with stage := .ended }).map
      BackfillTask.featureName).Nodup := by
    have before := alone.distinct
    rw [List.map_append] at before ⊢
    rwa [map_featureName_set here]
  refine ⟨distinct, fun marked other among named => ?_, alone.registered⟩
  have ended_among : { task with stage := .ended } ∈ s.tasks.set i { task with stage := .ended } :=
    List.mem_set (List.getElem?_eq_some_iff.mp here).1 _
  by_cases own : name = task.featureName
  · have same := List.inj_on_of_nodup_map distinct (List.mem_append_right _ among)
      (List.mem_append_right _ ended_among) (named.trans own)
    rw [same]
  · rcases List.mem_or_eq_of_mem_set among with old | rfl
    · exact alone.ended (others own ▸ marked) other old named
    · exact absurd named.symm own

theorem exists_mark_eq (featureName : String) (now : ℕ) (result : WriteResult)
    (s : FeatureHistory) : ∃ marks, s.mark featureName now result = { s with marks } ∧
      (∀ other, other ≠ featureName → marks other = s.marks other) ∧
      (∀ other, s.marks other ≠ none → marks other ≠ none) := by
  unfold FeatureHistory.mark
  split_ifs
  · refine ⟨_, rfl, fun other ne => Function.update_of_ne ne _ _, fun other marked => ?_⟩
    by_cases same : other = featureName
    · rw [same, Function.update_self]
      exact Option.some_ne_none now
    · rwa [Function.update_of_ne same]
  · exact ⟨s.marks, rfl, fun _ _ => rfl, fun _ => id⟩

theorem alone_step (step : HistoryStep) (alone : Alone name s) (apart : NamedApart name step) :
    Alone name (historyStep float jsonText window step s) := by
  have none_running : Alone name { s with registered := [], pending := [], tasks := [] } :=
    ⟨List.nodup_nil, fun _ task among => absurd among List.not_mem_nil,
      fun _ named among => absurd among List.not_mem_nil⟩
  have wrote (row : FeatureUpdate) (result : WriteResult) : Alone name (s.insert row result) := by
    obtain ⟨features, written⟩ := exists_insert_eq row result s
    rw [written]
    exact ⟨alone.distinct, alone.ended, alone.registered⟩
  cases step with
  | stores candle => exact ⟨alone.distinct, alone.ended, alone.registered⟩
  | stops => exact none_running
  | starts featuresByKey =>
      refine ⟨?_, fun _ task among => absurd among List.not_mem_nil, apart.2⟩
      rw [historyStep, List.append_nil]
      exact apart.1
  | emits i candle value result =>
      simp only [historyStep]
      split
      · exact alone
      · exact wrote _ result
  | detects answered =>
      simp only [historyStep]
      split
      · exact alone
      · next task pending waiting =>
          have distinct := alone.distinct
          rw [waiting, List.cons_append, List.map_cons] at distinct
          split_ifs
          · split
            · next unmarked =>
                refine ⟨?_, fun marked other among named => ?_, alone.registered⟩
                · have moved : (task :: (pending ++ s.tasks)).Perm
                      (pending ++ (s.tasks ++ [task])) := by
                    rw [← List.append_assoc]
                    exact (List.perm_append_singleton task _).symm
                  exact (moved.map _).nodup_iff.mp distinct
                · rcases List.mem_append.mp among with old | new
                  · exact alone.ended marked other old named
                  · obtain rfl := List.mem_singleton.mp new
                    exact absurd (named ▸ unmarked) marked
            · exact ⟨(List.nodup_cons.mp distinct).2, alone.ended, alone.registered⟩
          · exact none_running
  | advances i now result =>
      simp only [historyStep]
      split
      · exact alone
      · next task here =>
          rcases @backfillAndMark_cases float jsonText window i task now result s with
            ⟨_, same⟩ | ⟨running, stage, t, wrote | ⟨row, _, wrote⟩, goes⟩ | ⟨began, ends⟩
          · rwa [same]
          · rw [goes, wrote]
            exact alone.enter here running stage
          · obtain ⟨features, written⟩ := exists_insert_eq row result s
            have kept : Alone name { s with features } :=
              ⟨alone.distinct, alone.ended, alone.registered⟩
            rw [goes, wrote, written]
            exact kept.enter here running stage
          · obtain ⟨marks, marked, others, _⟩ := exists_mark_eq task.featureName began result s
            rw [ends, marked]
            exact alone.enter_ended here (others name)

/-- No step writes a row of a marked feature, or takes its mark. -/
theorem frozen_step (step : HistoryStep) (alone : Alone name s) (marked : s.marks name ≠ none) :
    (historyStep float jsonText window step s).rowsOf name = s.rowsOf name ∧
      (historyStep float jsonText window step s).marks name ≠ none := by
  have wrote {row : FeatureUpdate} (other : row.featureName ≠ name) (result : WriteResult) :
      (s.insert row result).rowsOf name = s.rowsOf name ∧
        (s.insert row result).marks name ≠ none := by
    refine ⟨rowsOf_insert_of_ne other result, ?_⟩
    obtain ⟨features, written⟩ := exists_insert_eq row result s
    rwa [written]
  cases step with
  | stores candle => exact ⟨rfl, marked⟩
  | starts featuresByKey => exact ⟨rfl, marked⟩
  | stops => exact ⟨rfl, marked⟩
  | emits i candle value result =>
      simp only [historyStep]
      split
      · exact ⟨rfl, marked⟩
      · next named among =>
          exact wrote (alone.registered candle.symbol named (List.mem_of_getElem? among)) result
  | detects answered =>
      simp only [historyStep]
      split
      · exact ⟨rfl, marked⟩
      · split_ifs
        · split
          · exact ⟨rfl, marked⟩
          · exact ⟨rfl, marked⟩
        · exact ⟨rfl, marked⟩
  | advances i now result =>
      simp only [historyStep]
      split
      · exact ⟨rfl, marked⟩
      · next task here =>
          rcases @backfillAndMark_cases float jsonText window i task now result s with
            ⟨_, same⟩ | ⟨running, stage, t, same | ⟨row, own, written⟩, goes⟩ | ⟨began, ends⟩
          · rw [same]
            exact ⟨rfl, marked⟩
          · rw [goes, same]
            exact ⟨rfl, marked⟩
          · rw [goes, written]
            refine wrote (fun named => running ?_) result
            exact alone.ended marked task (List.mem_of_getElem? here) (own.symm.trans named)
          · obtain ⟨marks, put, _, kept⟩ := exists_mark_eq task.featureName began result s
            rw [ends, put]
            exact ⟨rfl, kept name marked⟩

/-- **From its mark on the rows of a feature stay as they are**, in any later start, where the live
pipeline does not compute it: a feature of another interval has no row after those of its window. -/
theorem marked_frozen {stored : List OhlcCandle} {steps later : List HistoryStep}
    (apart : ∀ step ∈ steps ++ later, NamedApart name step)
    (marked : (run (historyStep float jsonText window) { stored } steps).marks name ≠ none) :
    (run (historyStep float jsonText window) { stored } (steps ++ later)).rowsOf name =
      (run (historyStep float jsonText window) { stored } steps).rowsOf name := by
  have keeps (s : FeatureHistory) (step : HistoryStep) (alone : Alone name s)
      (apart : NamedApart name step) : Alone name (historyStep float jsonText window step s) :=
    alone_step step alone apart
  have alone : Alone name (run (historyStep float jsonText window) { stored } steps) :=
    run_invariant (Alone name) keeps
      ⟨List.nodup_nil, fun _ task among => absurd among List.not_mem_nil,
        fun _ named among => absurd among List.not_mem_nil⟩
      (runGuarded_of_forall fun step among => apart step (List.mem_append_left later among))
  rw [run_append]
  have after := run_invariant
    (fun t => Alone name t ∧ t.marks name ≠ none ∧ t.rowsOf name =
      (run (historyStep float jsonText window) { stored } steps).rowsOf name)
    (fun t step ⟨alone, marked, same⟩ apart =>
      have ⟨rows, stays⟩ := frozen_step step alone marked
      ⟨keeps t step alone apart, stays, rows.trans same⟩)
    ⟨alone, marked, rfl⟩
    (runGuarded_of_forall fun step among => apart step (List.mem_append_right steps among))
  exact after.2.2

end Frozen

/-! ## A moving average of hours -/

def hourlyEma : FeaturesByKey :=
  [(("BTCUSDT", "1h"),
    [("ind.btcusdt.1h.ema_2", EmaFeature.toFeature ⟨2, Nat.two_pos, "1h"⟩)])]

/-- The candle of an hour. -/
def hourCandle (hour : ℕ) : OhlcCandle :=
  { wireToDomain (minuteTick (60 * hour)) with interval := "1h" }

/-- The first start, which comes to the mark. -/
def firstBackfill : List HistoryStep :=
  [.starts hourlyEma, .detects true, .advances 0 7200000000 .done, .advances 0 7200000000 .done,
    .advances 0 7200000000 .done, .advances 0 7200000000 .done, .advances 0 7200000000 .done]

/-- An hour later the engine starts again. -/
def secondBackfill : List HistoryStep :=
  [.stops, .stores (hourCandle 2), .starts hourlyEma, .detects true, .advances 0 10800000000 .done]

theorem hourlyEma_complete :
    ∃ task rows, RegisteredIn firstBackfill task ∧ task.featureName = "ind.btcusdt.1h.ema_2" ∧
      ReadAt (StoredIn (historyStep id (fun _ => "") 2592000000000) [hourCandle 0, hourCandle 1]
        firstBackfill) 2592000000000 task 7200000000 rows ∧
      Covered (run (historyStep id (fun _ => "") 2592000000000)
        { stored := [hourCandle 0, hourCandle 1] } firstBackfill).features task rows :=
  marked_complete (by decide +kernel)

theorem hourlyEma_frozen :
    (run (historyStep id (fun _ => "") 2592000000000) { stored := [hourCandle 0, hourCandle 1] }
        (firstBackfill ++ secondBackfill)).rowsOf "ind.btcusdt.1h.ema_2" =
      (run (historyStep id (fun _ => "") 2592000000000) { stored := [hourCandle 0, hourCandle 1] }
        firstBackfill).rowsOf "ind.btcusdt.1h.ema_2" := by
  have hourly : NamedApart "ind.btcusdt.1h.ema_2" (.starts hourlyEma) := by
    refine ⟨by decide, fun symbol named among => absurd among ?_⟩
    have other : ((symbol, "1m") : Key) ≠ ("BTCUSDT", "1h") := by simp
    rw [FeaturesByKey.get, hourlyEma, List.lookup_cons, beq_eq_false_iff_ne.mpr other]
    exact List.not_mem_nil
  refine marked_frozen ?_ (by decide +kernel)
  simp only [firstBackfill, secondBackfill, List.cons_append, List.nil_append, List.forall_mem_cons,
    hourly, true_and]
  simp [NamedApart]

end Scalper.Features
