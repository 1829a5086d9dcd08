import Gatehouse.Settings
import Gatehouse.Proofs.Text.Decimal
import Gatehouse.Proofs.Text.Utf8

/-!
Reading the settings is a list of checks made in a fixed order, the first failure reported.

A variable counts as set when its value is not blank once trimmed (`setValue_eq_some_iff`).
`Check` names the nine checks and `Check.order` their order: each secret is set and at least
32 bytes long, the secrets differ, each lifetime is unset or a number from one second to ten
years, the port is unset or a 16-bit number, the cache capacity is unset or a positive 64-bit
number, and a seed identity comes with a seed password. `Check.fault` says what a check finds
wrong, `firstFault` the first such fault in order, and `described` the settings the variables
describe: the values as written, the numbers they read as and the defaults for what is unset.

The main statement, `load_eq`, is that reading the settings answers the first fault found, and
the described settings when there is none. It follows the reading stage by stage: every stage
is first written as "fail with this fault, or go on with this value" (`secret_eq`, `ttl_eq`,
`number_bind`, `positive_number_bind`), after which the rest of the reading moves inside the
stage (`elim_bind`) and both sides agree stage by stage (`elim_congr_none`). What each check
accepts is said without the reader (`ttlFault_eq_none_iff`, `numberFault_eq_none_iff`, through
`Text.Decimal.Writes`), so every settings read has its lifetimes from one second to ten years,
its port within 16 bits and a positive cache capacity (`load_bounds`).
-/

namespace Gatehouse.Settings

open Text.Decimal (Writes)

-- ============================================================ the checks

/-- A check the variables go through when settings are read. -/
inductive Check where
  | accessSecret
  | refreshSecret
  | distinctSecrets
  | accessTtl
  | refreshTtl
  | sessionTtl
  | port
  | cacheCapacity
  | seed
  deriving DecidableEq, Repr

/-- The order the checks are made in. -/
def Check.order : List Check :=
  [.accessSecret, .refreshSecret, .distinctSecrets, .accessTtl, .refreshTtl, .sessionTtl, .port,
    .cacheCapacity, .seed]

/-- What a required secret lacks, if anything: it must be set, and hold at least 32 bytes. -/
def secretFault (name : String) : Option String → Option SettingsFault
  | none => some (.missing name)
  | some v => if v.utf8ByteSize < 32 then some (.invalid name "must be at least 32 bytes") else none

/-- What a lifetime lacks, if anything: unset, it takes its default; set, it must read as an
unsigned 64-bit number once trimmed, from one second to ten years. -/
def ttlFault (name : String) : Option String → Option SettingsFault
  | none => none
  | some raw =>
    match Text.Decimal.parseNat u64Max (Text.trim raw) with
    | .error f => some (.invalid name f.message)
    | .ok n =>
      if n = 0 then some (.invalid name "must be greater than zero")
      else if 315360000 < n then some (.invalid name "must be at most 315360000 seconds")
      else none

/-- What a number lacks, if anything: unset, it takes its default; set, it must read as a number
of `0 .. hi` once trimmed, and not be zero when `positive` asks. -/
def numberFault (name : String) (hi : Nat) (positive : Bool) : Option String → Option SettingsFault
  | none => none
  | some raw =>
    match Text.Decimal.parseNat hi (Text.trim raw) with
    | .error f => some (.invalid name f.message)
    | .ok n => if positive ∧ n = 0 then some (.invalid name "must be greater than zero") else none

/-- The fault a check finds in the variables, if any. -/
def Check.fault (lookup : String → Option String) : Check → Option SettingsFault
  | .accessSecret => secretFault "JWT_ACCESS_SECRET" (setValue lookup "JWT_ACCESS_SECRET")
  | .refreshSecret => secretFault "JWT_REFRESH_SECRET" (setValue lookup "JWT_REFRESH_SECRET")
  | .distinctSecrets =>
    match setValue lookup "JWT_ACCESS_SECRET", setValue lookup "JWT_REFRESH_SECRET" with
    | some a, some r =>
      if a = r then some (.invalid "JWT_REFRESH_SECRET" "must differ from JWT_ACCESS_SECRET")
      else none
    | _, _ => none
  | .accessTtl => ttlFault "ACCESS_TOKEN_TTL_SECS" (setValue lookup "ACCESS_TOKEN_TTL_SECS")
  | .refreshTtl => ttlFault "REFRESH_TOKEN_TTL_SECS" (setValue lookup "REFRESH_TOKEN_TTL_SECS")
  | .sessionTtl => ttlFault "SESSION_CACHE_TTL_SECS" (setValue lookup "SESSION_CACHE_TTL_SECS")
  | .port => numberFault "PORT" 65535 false (setValue lookup "PORT")
  | .cacheCapacity => numberFault "CACHE_CAPACITY" u64Max true (setValue lookup "CACHE_CAPACITY")
  | .seed =>
    match setValue lookup "SEED_MEMBER_IDENTITY", setValue lookup "SEED_MEMBER_PASSWORD" with
    | some _, none => some (.missing "SEED_MEMBER_PASSWORD")
    | _, _ => none

/-- The fault of the first check, in order, that finds one. -/
def firstFault (lookup : String → Option String) : Option SettingsFault :=
  Check.order.findSome? (·.fault lookup)

/-- The number a value reads as once trimmed, or the default when it is unset. -/
def numberOr (hi default : Nat) : Option String → Nat
  | none => default
  | some raw =>
    match Text.Decimal.parseNat hi (Text.trim raw) with
    | .ok n => n
    | .error _ => default

/-- The settings the variables describe: the values as they are written, the numbers they read
as, and the defaults for what is unset. -/
def described (lookup : String → Option String) : Settings where
  host := (setValue lookup "HOST").getD "0.0.0.0"
  port := numberOr 65535 8080 (setValue lookup "PORT")
  accessSecret := (setValue lookup "JWT_ACCESS_SECRET").getD ""
  refreshSecret := (setValue lookup "JWT_REFRESH_SECRET").getD ""
  accessTtl := numberOr u64Max 3600 (setValue lookup "ACCESS_TOKEN_TTL_SECS")
  refreshTtl := numberOr u64Max 1209600 (setValue lookup "REFRESH_TOKEN_TTL_SECS")
  sessionTtl := numberOr u64Max 1800 (setValue lookup "SESSION_CACHE_TTL_SECS")
  cacheUrl := setValue lookup "CACHE_URL"
  cacheCapacity := numberOr u64Max defaultCapacity (setValue lookup "CACHE_CAPACITY")
  seed :=
    match setValue lookup "SEED_MEMBER_IDENTITY", setValue lookup "SEED_MEMBER_PASSWORD" with
    | some identity, some password => some ⟨identity, password⟩
    | _, _ => none
  logFormat := LogFormat.parse (setValue lookup "LOG_FORMAT")

@[simp] theorem ttlFault_none (name : String) : ttlFault name none = none := rfl

@[simp] theorem numberFault_none (name : String) (hi : Nat) (positive : Bool) :
    numberFault name hi positive none = none := rfl

@[simp] theorem numberOr_none (hi d : Nat) : numberOr hi d none = d := rfl

theorem maxTtlSecs_eq : maxTtlSecs = 315360000 := rfl

-- ============================================================ what each check accepts

/-- A variable is set when it has a value that is not blank once trimmed. -/
theorem setValue_eq_some_iff {lookup : String → Option String} {name v : String} :
    setValue lookup name = some v ↔ lookup name = some v ∧ (Text.trim v).isEmpty = false := by
  rw [Text.isEmpty_trim]
  unfold setValue
  cases lookup name with
  | none => simp
  | some u =>
    cases hb : Text.isBlankText u with
    | false =>
      simp only [hb, Bool.false_eq_true, if_false, Option.some.injEq, iff_self_and]
      rintro rfl
      exact hb
    | true =>
      simp only [hb, if_true, reduceCtorEq, Option.some.injEq, false_iff, not_and]
      rintro rfl
      simp [hb]

/-- A set value that writes a number within the bound reads as that number. -/
theorem numberOr_of_writes {hi d n : Nat} {raw : String} (hw : Writes (Text.trim raw) n)
    (hn : n ≤ hi) : numberOr hi d (some raw) = n := by
  simp [numberOr, Text.Decimal.parseNat_eq_ok_iff.2 ⟨hw, hn⟩]

/-- A number read with a default within the bound is within the bound. -/
theorem numberOr_le {hi d : Nat} (hd : d ≤ hi) (v : Option String) : numberOr hi d v ≤ hi := by
  cases v with
  | none => exact hd
  | some raw =>
    cases hp : Text.Decimal.parseNat hi (Text.trim raw) with
    | ok n => simpa [numberOr, hp] using (Text.Decimal.parseNat_eq_ok_iff.1 hp).2
    | error f => simpa [numberOr, hp] using hd

/-- A lifetime passes its check when it is unset, or when once trimmed it writes a number from
one second to ten years. -/
theorem ttlFault_eq_none_iff {name : String} {v : Option String} :
    ttlFault name v = none ↔
      ∀ raw, v = some raw → ∃ n, Writes (Text.trim raw) n ∧ 0 < n ∧ n ≤ 315360000 := by
  cases v with
  | none => simp [ttlFault]
  | some raw =>
    simp only [ttlFault, Option.some.injEq, forall_eq']
    cases hp : Text.Decimal.parseNat u64Max (Text.trim raw) with
    | error f =>
      -- a number of at most ten years is within 64 bits, so it would have read
      simp only [reduceCtorEq, false_iff, not_exists, not_and]
      intro n hw _ hle
      exact Text.Decimal.not_writes_of_parseNat_error hp hw (by unfold u64Max; omega)
    | ok n =>
      have hw := (Text.Decimal.parseNat_eq_ok_iff.1 hp).1
      simp only
      constructor
      · intro h
        refine ⟨n, hw, ?_⟩
        split_ifs at h
        omega
      · rintro ⟨m, hwm, h0, h1⟩
        obtain rfl := hwm.unique hw
        rw [if_neg (by omega), if_neg (by omega)]

/-- A number passes its check when it is unset, or when once trimmed it writes a number within
the bound, not zero if it must be positive. -/
theorem numberFault_eq_none_iff {name : String} {hi : Nat} {positive : Bool} {v : Option String} :
    numberFault name hi positive v = none ↔
      ∀ raw, v = some raw → ∃ n, Writes (Text.trim raw) n ∧ n ≤ hi ∧ (positive = true → 0 < n) := by
  cases v with
  | none => simp
  | some raw =>
    simp only [numberFault, Option.some.injEq, forall_eq']
    cases hp : Text.Decimal.parseNat hi (Text.trim raw) with
    | error f =>
      simp only [reduceCtorEq, false_iff, not_exists, not_and]
      intro n hw hle _
      exact Text.Decimal.not_writes_of_parseNat_error hp hw hle
    | ok n =>
      obtain ⟨hw, hle⟩ := Text.Decimal.parseNat_eq_ok_iff.1 hp
      constructor
      · intro h
        refine ⟨n, hw, hle, fun hpos => ?_⟩
        simp only [hpos, true_and, ite_eq_right_iff, reduceCtorEq, imp_false] at h
        omega
      · rintro ⟨m, hwm, -, hpos⟩
        obtain rfl := hwm.unique hw
        cases positive
        · rfl
        · simp only [true_and, ite_eq_right_iff, reduceCtorEq, imp_false]
          have := hpos rfl
          omega

/-- Every check passes exactly when no first fault is found. -/
theorem firstFault_eq_none_iff {lookup : String → Option String} :
    firstFault lookup = none ↔ ∀ c ∈ Check.order, c.fault lookup = none :=
  List.findSome?_eq_none_iff

/-- A passing secret is set. -/
theorem eq_some_of_secretFault {name : String} {v : Option String} (h : secretFault name v = none) :
    ∃ s, v = some s ∧ 32 ≤ s.utf8ByteSize := by
  cases v with
  | none => cases h
  | some s =>
    refine ⟨s, rfl, ?_⟩
    simp only [secretFault, ite_eq_right_iff, reduceCtorEq, imp_false] at h
    omega

-- ============================================================ the reading, stage by stage

section Steps

variable {ε α β : Type}

theorem except_ok_bind (a : α) (f : α → Except ε β) : (Except.ok a >>= f) = f a := rfl

theorem except_error_bind (e : ε) (f : α → Except ε β) :
    (Except.error e >>= f) = .error e := rfl

theorem except_throw_eq (e : ε) : (throw e : Except ε α) = .error e := rfl

theorem except_pure_eq (a : α) : (pure a : Except ε α) = .ok a := rfl

/-- A stage that fails with a fault or goes on with a value: what follows it moves inside. -/
theorem elim_bind (o : Option ε) (a : α) (f : α → Except ε β) :
    ((o.elim (.ok a) .error : Except ε α) >>= f) = o.elim (f a) .error := by
  cases o <;> rfl

/-- Two stages with the same fault agree when what follows agrees once the fault is absent. -/
theorem elim_congr_none {o : Option ε} {x y : α} {g : ε → α} (h : o = none → x = y) :
    o.elim x g = o.elim y g := by
  cases o with
  | none => rw [h rfl]
  | some e => rfl

/-- The first fault of a list of checks, unfolded by its first check. -/
theorem elim_findSome?_cons {γ : Type} (f : γ → Option ε) (c : γ) (cs : List γ) (x : α)
    (g : ε → α) : ((c :: cs).findSome? f).elim x g = (f c).elim ((cs.findSome? f).elim x g) g := by
  simp only [List.findSome?_cons]
  cases f c <;> rfl

end Steps

theorem secret_eq (name : String) (v : Option String) :
    secret name v = (secretFault name v).elim (.ok (v.getD "")) .error := by
  cases v with
  | none => rfl
  | some v =>
    -- the reader counts the bytes of the encoding, which are the string's own bytes
    simp only [secret, secretFault, Text.Utf8.length_ofString, minSecretBytes]
    split <;> rfl

theorem number_eq (name : String) (hi : Nat) (raw : String) :
    number name hi raw =
      match Text.Decimal.parseNat hi (Text.trim raw) with
      | .ok n => .ok n
      | .error f => .error (.invalid name f.message) := by
  unfold number
  cases Text.Decimal.parseNat hi (Text.trim raw) <;> rfl

theorem ttl_eq (name : String) (v : Option String) {d : Nat} (hd : 0 < d ∧ d ≤ 315360000) :
    ttl name v d = (ttlFault name v).elim (.ok (numberOr u64Max d v)) .error := by
  cases v with
  | none =>
    -- the default itself goes through the two bounds
    have h0 : d ≠ 0 := by omega
    have h1 : ¬ 315360000 < d := by omega
    simp [ttl, ttlFault, numberOr, maxTtlSecs_eq, h0, h1, except_ok_bind, except_pure_eq]
  | some raw =>
    cases hp : Text.Decimal.parseNat u64Max (Text.trim raw) with
    | error f => simp [ttl, ttlFault, numberOr, number_eq, hp, except_error_bind]
    | ok n =>
      by_cases h0 : n = 0
      · simp [ttl, ttlFault, numberOr, number_eq, hp, h0, except_ok_bind, except_throw_eq,
          except_error_bind]
      · have hmsg : toString (315360000 : Nat) = "315360000" := by decide
        by_cases h1 : 315360000 < n
        · simp [ttl, ttlFault, numberOr, number_eq, hp, h0, h1, maxTtlSecs_eq, hmsg,
            except_ok_bind, except_throw_eq, except_error_bind]
        · simp [ttl, ttlFault, numberOr, number_eq, hp, h0, h1, maxTtlSecs_eq, except_ok_bind,
            except_pure_eq]

theorem number_bind {α : Type} (name : String) (hi d : Nat) (raw : String)
    (k : Nat → Except SettingsFault α) :
    (number name hi raw >>= k) =
      (numberFault name hi false (some raw)).elim (k (numberOr hi d (some raw))) .error := by
  rw [number_eq]
  cases hp : Text.Decimal.parseNat hi (Text.trim raw) <;>
    simp [numberFault, numberOr, hp, except_ok_bind, except_error_bind]

theorem positive_number_bind {α : Type} (name : String) (hi d : Nat) (raw : String)
    (k : Nat → Except SettingsFault α) :
    (number name hi raw >>= fun n =>
        if n = 0 then .error (.invalid name "must be greater than zero") else k n) =
      (numberFault name hi true (some raw)).elim (k (numberOr hi d (some raw))) .error := by
  rw [number_eq]
  cases hp : Text.Decimal.parseNat hi (Text.trim raw) with
  | error f => simp [numberFault, hp, except_error_bind]
  | ok n => by_cases h : n = 0 <;> simp [numberFault, numberOr, hp, h, except_ok_bind]

/-- Reading the settings answers the fault of the first check that finds one, and the settings
the variables describe when none does. -/
theorem load_eq (lookup : String → Option String) :
    load lookup = (firstFault lookup).elim (.ok (described lookup)) .error := by
  have ha := ttl_eq "ACCESS_TOKEN_TTL_SECS" (setValue lookup "ACCESS_TOKEN_TTL_SECS")
    (by decide : 0 < 3600 ∧ 3600 ≤ 315360000)
  have hr := ttl_eq "REFRESH_TOKEN_TTL_SECS" (setValue lookup "REFRESH_TOKEN_TTL_SECS")
    (by decide : 0 < 1209600 ∧ 1209600 ≤ 315360000)
  have hs := ttl_eq "SESSION_CACHE_TTL_SECS" (setValue lookup "SESSION_CACHE_TTL_SECS")
    (by decide : 0 < 1800 ∧ 1800 ≤ 315360000)
  unfold load firstFault
  simp only [secret_eq, ha, hr, hs, elim_bind, Check.order, elim_findSome?_cons,
    List.findSome?_nil, Check.fault]
  -- the two secrets
  refine elim_congr_none fun h1 => ?_
  refine elim_congr_none fun h2 => ?_
  obtain ⟨a, hva, -⟩ := eq_some_of_secretFault h1
  obtain ⟨r, hvr, -⟩ := eq_some_of_secretFault h2
  simp only [hva, hvr, Option.getD_some, beq_iff_eq]
  -- the secrets differ
  by_cases hd : a = r
  · simp [except_ok_bind, except_error_bind, except_throw_eq, except_pure_eq, hd]
  simp only [hd, if_false, Option.elim_none]
  -- the three lifetimes
  refine elim_congr_none fun _ => ?_
  refine elim_congr_none fun _ => ?_
  refine elim_congr_none fun _ => ?_
  -- the rest of the block matches on the port, the cache capacity and the seed pair in turn,
  -- so it is split on what each of them holds
  unfold described
  simp only [hva, hvr, Option.getD_some]
  rcases setValue lookup "PORT" with _ | rp <;>
    rcases setValue lookup "CACHE_CAPACITY" with _ | rc <;>
    rcases setValue lookup "SEED_MEMBER_IDENTITY" with _ | i <;>
    rcases setValue lookup "SEED_MEMBER_PASSWORD" with _ | w <;>
    simp only [number_bind "PORT" 65535 8080,
      positive_number_bind "CACHE_CAPACITY" u64Max defaultCapacity, except_pure_eq, except_ok_bind,
      except_throw_eq, except_error_bind, numberFault_none, numberOr_none, Option.elim_none,
      Option.elim_some]

-- ============================================================ what a read settles

/-- Settings that are read passed every check, and are the settings the variables describe. -/
theorem load_eq_ok {lookup : String → Option String} {cfg : Settings}
    (h : load lookup = .ok cfg) :
    (∀ c ∈ Check.order, c.fault lookup = none) ∧ cfg = described lookup := by
  rw [load_eq] at h
  cases hf : firstFault lookup with
  | some f =>
    rw [hf] at h
    cases h
  | none =>
    rw [hf] at h
    exact ⟨firstFault_eq_none_iff.1 hf, (Except.ok.inj h).symm⟩

/-- A lifetime that passes its check lies from one second to ten years, as its default does. -/
theorem numberOr_mem_of_ttlFault {name : String} {v : Option String} {d : Nat}
    (hd : 0 < d ∧ d ≤ 315360000) (h : ttlFault name v = none) :
    0 < numberOr u64Max d v ∧ numberOr u64Max d v ≤ 315360000 := by
  cases v with
  | none => exact hd
  | some raw =>
    obtain ⟨n, hw, h0, h1⟩ := ttlFault_eq_none_iff.1 h raw rfl
    rw [numberOr_of_writes hw (by unfold u64Max; omega)]
    exact ⟨h0, h1⟩

/-- A number that must be positive and passes its check is positive, as its default is. -/
theorem numberOr_pos_of_numberFault {name : String} {hi d : Nat} {v : Option String}
    (hd : 0 < d) (h : numberFault name hi true v = none) : 0 < numberOr hi d v := by
  cases v with
  | none => exact hd
  | some raw =>
    obtain ⟨n, hw, hle, hpos⟩ := numberFault_eq_none_iff.1 h raw rfl
    rw [numberOr_of_writes hw hle]
    exact hpos rfl

/-- Settings that are read have their lifetimes from one second to ten years, a 16-bit port and
a positive cache capacity. -/
theorem load_bounds {lookup : String → Option String} {cfg : Settings}
    (h : load lookup = .ok cfg) :
    (0 < cfg.accessTtl ∧ cfg.accessTtl ≤ 315360000) ∧
      (0 < cfg.refreshTtl ∧ cfg.refreshTtl ≤ 315360000) ∧
      (0 < cfg.sessionTtl ∧ cfg.sessionTtl ≤ 315360000) ∧ cfg.port ≤ 65535 ∧
      0 < cfg.cacheCapacity := by
  obtain ⟨hchecks, rfl⟩ := load_eq_ok h
  have hacc : ttlFault "ACCESS_TOKEN_TTL_SECS" (setValue lookup "ACCESS_TOKEN_TTL_SECS") = none :=
    hchecks .accessTtl (by simp [Check.order])
  have href : ttlFault "REFRESH_TOKEN_TTL_SECS" (setValue lookup "REFRESH_TOKEN_TTL_SECS") = none :=
    hchecks .refreshTtl (by simp [Check.order])
  have hses : ttlFault "SESSION_CACHE_TTL_SECS" (setValue lookup "SESSION_CACHE_TTL_SECS") = none :=
    hchecks .sessionTtl (by simp [Check.order])
  have hcap : numberFault "CACHE_CAPACITY" u64Max true (setValue lookup "CACHE_CAPACITY") = none :=
    hchecks .cacheCapacity (by simp [Check.order])
  -- the fields are read off the described settings before the lemmas are matched against them
  simp only [described]
  exact ⟨numberOr_mem_of_ttlFault (by decide) hacc, numberOr_mem_of_ttlFault (by decide) href,
    numberOr_mem_of_ttlFault (by decide) hses, numberOr_le (by decide) _,
    numberOr_pos_of_numberFault (by decide) hcap⟩

/-- How settings are read: a variable is set when its value is not blank once trimmed; the answer
is the fault of the first check, in order, that finds one, and otherwise the settings the
variables describe; a lifetime passes its check when unset or when it writes a number from one
second to ten years once trimmed, a number when unset or when it writes a number within its bound
(not zero where it must be positive); so settings that are read have their lifetimes from one
second to ten years, a 16-bit port and a positive cache capacity. -/
theorem load_checks_in_order (lookup : String → Option String) :
    (∀ name v, setValue lookup name = some v ↔
      lookup name = some v ∧ (Text.trim v).isEmpty = false) ∧
    load lookup = (firstFault lookup).elim (.ok (described lookup)) .error ∧
    (∀ name v, ttlFault name v = none ↔
      ∀ raw, v = some raw → ∃ n, Writes (Text.trim raw) n ∧ 0 < n ∧ n ≤ 315360000) ∧
    (∀ name hi positive v, numberFault name hi positive v = none ↔
      ∀ raw, v = some raw → ∃ n, Writes (Text.trim raw) n ∧ n ≤ hi ∧ (positive = true → 0 < n)) ∧
    ∀ cfg, load lookup = .ok cfg →
      (0 < cfg.accessTtl ∧ cfg.accessTtl ≤ 315360000) ∧
      (0 < cfg.refreshTtl ∧ cfg.refreshTtl ≤ 315360000) ∧
      (0 < cfg.sessionTtl ∧ cfg.sessionTtl ≤ 315360000) ∧ cfg.port ≤ 65535 ∧
      0 < cfg.cacheCapacity :=
  ⟨fun _ _ => setValue_eq_some_iff, load_eq lookup, fun _ _ => ttlFault_eq_none_iff,
    fun _ _ _ _ => numberFault_eq_none_iff, fun _ h => load_bounds h⟩

end Gatehouse.Settings
