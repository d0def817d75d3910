/-
The two measurements that a hardware profile is made from: `linear_profile`
of `scripts/measure_memory_to_gpu.py`, and the prefill profile of
`scripts/profile_prefill.py` with its way into a configuration.

# numpy

`lstsq`, `percentile` and `sqrt` are parameters. Figures are exact.

# Files

A file that `json.dumps` wrote is read by `json.loads` as the value that was
written, so an output is kept as its JSON value.

# Not here

The measurements themselves: the transfers, the tokens of the prompts, the
completions, and the metrics before and after them.
-/
import Kareserve.Lib.PyFloat
import Kareserve.Lib.Regression
import Mathlib.Algebra.BigOperators.Fin
import Mathlib.Data.Fin.VecNotation

namespace Kareserve

open PyJson (Json Exc)

-- ========================================================= the transfers

/-- An element of `results`, with the members `linear_profile` reads. -/
structure TransferResult where
  sizeMib : ℚ
  medianMs : ℚ
  bandwidthGbps : ℚ

/-- A point of `points`: bytes and seconds. -/
def TransferResult.point (r : TransferResult) : ℚ × ℚ :=
  (r.sizeMib * 1024 * 1024, r.medianMs / 1000)

/-- `linear_profile`, of a first result and the others: a bandwidth and a
latency. -/
def linearProfile (first : TransferResult) (others : List TransferResult) :
    ℚ × ℚ :=
  let points := (first :: others).map TransferResult.point
  let denominator := Regression.spread points
  if denominator ≤ 0 then (max first.bandwidthGbps 0, 0)
  else
    let slope := Regression.slope points
    let intercept := Regression.meanY points - slope * Regression.meanX points
    (if 0 < slope then 1 / slope / 10 ^ 9 else 0, max 0 (intercept * 1000))

-- ============================================================== the fit

/-- `FEATURE_NAMES`. -/
def featureNames : Fin 6 → String :=
  !["intercept", "prompt", "cached", "prompt_squared", "prompt_cached",
    "cached_squared"]

/-- An element of `samples`. -/
structure ProfileSample where
  promptTokens : ℚ
  cachedPrefixTokens : ℚ
  ttftMs : ℚ

/-- An element of `rows`. -/
def ProfileSample.row (s : ProfileSample) (tokenScale : ℚ) : Fin 6 → ℚ :=
  let prompt := s.promptTokens / tokenScale
  let cached := s.cachedPrefixTokens / tokenScale
  ![1, prompt, cached, prompt * prompt, prompt * cached, cached * cached]

/-- A row of `rows @ coefficients`. -/
def dot (row coefficients : Fin 6 → ℚ) : ℚ := ∑ i, row i * coefficients i

structure Numpy where
  /-- `np.linalg.lstsq(rows, observed)[0]`. -/
  lstsq : List (Fin 6 → ℚ) → List ℚ → Fin 6 → ℚ
  /-- `np.percentile(values, q)`. -/
  percentile : List ℚ → ℚ → ℚ
  sqrt : ℚ → ℚ

def number (q : ℚ) : Json := .float (.finite q)

section Fit

variable (np : Numpy)

/-- `coefficients`. -/
def fitCoefficients (samples : List ProfileSample) (tokenScale : ℚ) :
    Fin 6 → ℚ :=
  np.lstsq (samples.map fun s => s.row tokenScale)
    (samples.map ProfileSample.ttftMs)

/-- `residual`. -/
def fitResiduals (samples : List ProfileSample) (tokenScale : ℚ) : List ℚ :=
  samples.map fun s =>
    dot (s.row tokenScale) (fitCoefficients np samples tokenScale) - s.ttftMs

/-- `fit`. -/
def fit (samples : List ProfileSample) (tokenScale : ℚ) :
    Except Exc (List (String × Json)) :=
  if samples.length < 6 then .error .valueError
  else
    let coefficients := fitCoefficients np samples tokenScale
    let residual := fitResiduals np samples tokenScale
    .ok
      [("type", .string "polynomial_v1"),
        ("token_scale", number tokenScale),
        ("minimum_ms",
          number (np.percentile (samples.map ProfileSample.ttftMs) 5)),
        ("coefficients_ms", .dict ((List.finRange 6).map fun i =>
          (featureNames i, number (coefficients i)))),
        ("fit", .dict
          [("sample_count", .int samples.length),
            ("rmse_ms", number (np.sqrt
              (Regression.mean (residual.map fun r => r * r)))),
            ("max_absolute_error_ms",
              number ((residual.map fun r => |r|).max?.getD 0))])]

/-- The scale that `main` fits with. -/
def profileScale (samples : List ProfileSample) : ℚ :=
  (samples.map ProfileSample.promptTokens).max?.getD 0

/-- `config.setdefault("hardware_profile", {})["prefill_time_model"] = model`,
on a configuration that is an object. -/
def setPrefillModel (config : List (String × Json)) (model : Json) :
    Except Exc (List (String × Json)) :=
  let config := (PyDict.ofList config).setDefault "hardware_profile" (.dict [])
  match config.get "hardware_profile" with
  | some (.dict profile) =>
      .ok (config.set "hardware_profile"
        (.dict ((PyDict.ofList profile).set "prefill_time_model" model).items)).items
  | _ => .error .typeError

/-- `main`, from the samples on: what `--update-config` is left with. -/
def profileInto (samples : List ProfileSample) (config : List (String × Json)) :
    Except Exc (List (String × Json)) := do
  let model ← fit np samples (profileScale samples)
  setPrefillModel config (.dict model)

end Fit

end Kareserve
