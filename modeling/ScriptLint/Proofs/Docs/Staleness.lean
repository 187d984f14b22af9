import ScriptLint.Proofs.Cache.Lifetimes
import ScriptLint.Proofs.Calendar.ElapsedTime
import ScriptLint.Proofs.Docs.DecidingHeaders

/-!
# Pages that become stale

A page that has to be fetched at some time has to be fetched at all later times, and it is not
fetched the sooner the longer its lifetime is.  Only the last rule looks at the clock or at the
lifetime, so both statements are about the age of a page, and are carried through the other rules.
-/

namespace ScriptLint

open Calendar ValidationHeaders

namespace Freshness

variable {cachedValue liveValue : Option String} {otherwise another : Freshness}
variable (holds : Freshness → Prop)

/-- What carries over from the verdict of the later rules carries over from the verdict of all. -/
theorem ofPair_imp (handedOn : holds otherwise → holds another)
    (verdict : holds (ofPair cachedValue liveValue otherwise)) :
    holds (ofPair cachedValue liveValue another) := by
  by_cases given : IsGiven cachedValue ∧ IsGiven liveValue
  · rw [ofPair_of_isGiven given.1 given.2 another otherwise]
    exact verdict
  · rw [not_and_or] at given
    rw [ofPair_of_not_isGiven given] at verdict ⊢
    exact handedOn verdict

theorem assess_imp {cached : Option ValidationHeaders} {live other : ValidationHeaders}
    {now otherNow : Instant} (sameTag : other.etag = live.etag)
    (sameDate : other.lastModified = live.lastModified)
    (handedOn : ∀ headers ∈ cached,
      holds (ofLifetime headers live now) → holds (ofLifetime headers other otherNow))
    (verdict : holds (assess cached live now)) : holds (assess cached other otherNow) := by
  cases cached with
  | none => exact verdict
  | some headers =>
      rw [assess_some] at verdict ⊢
      rw [sameTag, sameDate]
      exact ofPair_imp holds (ofPair_imp holds (handedOn headers rfl)) verdict

theorem needsRefresh_ofAge_iff {age : Int} {lifetime : Nat} :
    (ofAge age lifetime).needsRefresh ↔ (lifetime : Int) * 1000 < age := by
  rw [ofAge]
  split_ifs with expired <;> simp [needsRefresh, expired]

theorem ofAge_eq_fresh_iff {age : Int} {lifetime : Nat} :
    ofAge age lifetime = fresh ↔ age ≤ (lifetime : Int) * 1000 := by
  rw [ofAge]
  split_ifs with expired <;> simp <;> omega

section Lifetime

variable {headers live : ValidationHeaders} {now earlier later : Instant} {lifetime : Nat}

theorem ofLifetime_of_maxAge? (read : live.maxAge? = some lifetime) :
    ofLifetime headers live now = ofAge (now.millisSince (responseDate headers)) lifetime := by
  rw [ofLifetime, read]

/-- A page does not become younger, so its lifetime stays over. -/
theorem ofLifetime_needsRefresh_of_le (earlierRegular : ¬earlier.IsLeap)
    (laterRegular : ¬later.IsLeap) (dateRegular : ¬(responseDate headers).IsLeap)
    (le : earlier ≤ later) (outdated : (ofLifetime headers live earlier).needsRefresh) :
    (ofLifetime headers live later).needsRefresh := by
  cases read : live.maxAge? with
  | none =>
      rw [ofLifetime, read]
      rfl
  | some lifetime =>
      rw [ofLifetime_of_maxAge? read, needsRefresh_ofAge_iff] at outdated ⊢
      have older := Instant.millisSince_le_of_le earlierRegular laterRegular dateRegular le
      omega

/-- A longer lifetime keeps a page fresh, or it is not what is read of the value. -/
theorem ofLifetime_withMaxAge_of_le {before behind : String} {n m : Nat}
    (ends : EndsDigits behind.toList) (le : n ≤ m) (small : m < 2 ^ 64)
    (valid : ofLifetime headers (live.withMaxAge before n behind) now = fresh) :
    ofLifetime headers (live.withMaxAge before m behind) now = fresh := by
  rcases maxAgeOf?_written before ends with read | same
  · have shorter : (live.withMaxAge before n behind).maxAge? = some n :=
      (read n).trans (if_pos (by omega))
    have longer : (live.withMaxAge before m behind).maxAge? = some m :=
      (read m).trans (if_pos small)
    rw [ofLifetime_of_maxAge? shorter, ofAge_eq_fresh_iff] at valid
    rw [ofLifetime_of_maxAge? longer, ofAge_eq_fresh_iff]
    omega
  · have sameLifetime : (live.withMaxAge before m behind).maxAge? =
        (live.withMaxAge before n behind).maxAge? := same m n
    rw [ofLifetime, sameLifetime]
    exact valid

/-- A page with a date that is still to come is within any lifetime. -/
theorem ofLifetime_of_le (read : live.maxAge? = some lifetime)
    (counted : ¬now.IsLeapBefore (responseDate headers) ∨ 0 < lifetime)
    (le : now ≤ responseDate headers) :
    ofLifetime headers live now = fresh := by
  rw [ofLifetime_of_maxAge? read, ofAge_eq_fresh_iff]
  rcases counted with apart | positive
  · have young := Instant.millisSince_nonpos_of_le apart le
    omega
  · have young := Instant.millisSince_lt_of_le le
    omega

end Lifetime

end Freshness

open Freshness in
/-- Outside of leap seconds a page that has to be fetched has to be fetched at all later times, and
at any time a greater number behind `max-age=` leaves a fresh page fresh.  All numbers of eight
bytes are read; neither their milliseconds nor the milliseconds between any two instants leave the
numbers of sixteen or eight bytes that they are counted in.  Where the lifetime decides, a page with
a date that is still to come is fresh, unless the lifetime is zero, the time lies in the leap second
at the end of a day, and the date in the second behind it. -/
theorem staleness_is_monotone (live : ValidationHeaders) :
    (∀ (cached : Option ValidationHeaders) (earlier later : Instant),
        ¬earlier.IsLeap → ¬later.IsLeap → (∀ headers ∈ cached, ¬(responseDate headers).IsLeap) →
        earlier ≤ later →
        (assess cached live earlier).needsRefresh → (assess cached live later).needsRefresh) ∧
      (∀ (cached : Option ValidationHeaders) (now : Instant) (before behind : String) (n m : Nat),
        EndsDigits behind.toList → n ≤ m → m < 2 ^ 64 →
        assess cached (live.withMaxAge before n behind) now = fresh →
        assess cached (live.withMaxAge before m behind) now = fresh) ∧
      (∀ n < 2 ^ 64, (live.withMaxAge "" n "").maxAge? = some n) ∧
      (∀ lifetime, live.maxAge? = some lifetime → (lifetime : Int) * 1000 < 2 ^ 127) ∧
      (∀ (cached : ValidationHeaders) (now : Instant),
        -2 ^ 63 ≤ now.millisSince (responseDate cached) ∧
          now.millisSince (responseDate cached) < 2 ^ 63) ∧
      (∀ (cached : ValidationHeaders) (now : Instant) (lifetime : Nat),
        ¬IsGiven cached.etag ∨ ¬IsGiven live.etag →
        ¬IsGiven cached.lastModified ∨ ¬IsGiven live.lastModified →
        live.maxAge? = some lifetime →
        ¬now.IsLeapBefore (responseDate cached) ∨ 0 < lifetime → now ≤ responseDate cached →
        assess (some cached) live now = fresh) := by
  refine ⟨?_, ?_, ?_, ?_, ?_, ?_⟩
  · intro cached earlier later earlierRegular laterRegular datesRegular le
    refine assess_imp (fun freshness => freshness.needsRefresh) rfl rfl ?_
    intro headers member
    exact ofLifetime_needsRefresh_of_le earlierRegular laterRegular (datesRegular headers member) le
  · intro cached now before behind n m ends le small
    refine assess_imp (fun freshness => freshness = fresh) (by rfl) (by rfl) ?_
    intro headers _
    exact ofLifetime_withMaxAge_of_le ends le small
  · intro n small
    have ends : EndsDigits "".toList := by
      rintro c ⟨⟩
    exact (maxAgeOf?_first ends n).trans (if_pos small)
  · intro lifetime read
    have small := lt_of_maxAge? read
    omega
  · intro cached now
    obtain ⟨lower, upper⟩ := now.millisSince_bounds (responseDate cached)
    omega
  · intro cached now lifetime oneLacksTag oneLacksDate read counted le
    rw [assess_of_lifetime oneLacksTag oneLacksDate]
    exact ofLifetime_of_le read counted le

open Freshness in
/-- In the middle of a leap second a page of the following midnight counts as half a second old. -/
theorem date_to_come_is_stale_in_leap_second :
    let now : Instant := ⟨17166, 86399, 1500000000, by decide, by decide, by decide⟩
    let cached := { ValidationHeaders.none with date := some "Sun, 01 Jan 2017 00:00:00 GMT" }
    let live := { ValidationHeaders.none with cacheControl := some "max-age=0" }
    now ≤ responseDate cached ∧ live.maxAge? = some 0 ∧ now.millisSince .epoch = 1483228800500 ∧
      now.millisSince (responseDate cached) = 500 ∧ assess (some cached) live now = stale := by
  intro now cached live
  let midnight : Instant := ⟨17167, 0, 0, by decide, by decide, by decide⟩
  have dateEq : responseDate cached = midnight := by decide +kernel
  have read : live.maxAge? = some 0 := by decide +kernel
  have old : now.millisSince midnight = 500 := by decide
  have untagged : ¬IsGiven cached.etag := by
    rintro ⟨text, given, -⟩
    cases given
  have undated : ¬IsGiven cached.lastModified := by
    rintro ⟨text, given, -⟩
    cases given
  have verdict : assess (some cached) live now = ofAge 500 0 := by
    rw [assess_of_lifetime (Or.inl untagged) (Or.inl undated), ofLifetime_of_maxAge? read, dateEq,
      old]
  rw [dateEq, verdict]
  exact ⟨Or.inl (by decide), read, by decide, old, rfl⟩

end ScriptLint
