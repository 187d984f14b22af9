import Mathlib.Tactic.Common
import ScriptLint.Docs.Freshness

/-!
# The headers that decide

Of two sets of headers the tags decide, if both have one; else the dates of modification, if both
have one; and only then the lifetime.  The verdict is put together from these rules, each of which
either decides, whatever comes after it, or hands on to the next.  So it depends on the values that
decide and on nothing else.
-/

namespace ScriptLint

open Calendar

namespace ValidationHeaders

/-- Whether headers tell a page from its other versions: by a tag, or by a date of modification. -/
def Identify (headers : ValidationHeaders) : Prop :=
  (Freshness.present? headers.etag).isSome ∨ (Freshness.present? headers.lastModified).isSome

end ValidationHeaders

namespace Freshness

/-- Whether a header has a value that is not empty. -/
def IsGiven (value : Option String) : Prop :=
  ∃ text, value = some text ∧ text ≠ ""

/-- The verdict of two values if both are given, and another verdict otherwise. -/
def ofPair (cached live : Option String) (otherwise : Freshness) : Freshness :=
  match present? cached, present? live with
  | some old, some new => ofValues old new
  | _, _ => otherwise

variable {value cachedValue liveValue : Option String} {cached live headers : ValidationHeaders}
variable {now : Instant}

theorem present?_eq_some_iff {text : String} :
    present? value = some text ↔ value = some text ∧ text ≠ "" := by
  rw [present?, Option.filter_eq_some_iff]
  simp

theorem isSome_present?_iff : (present? value).isSome ↔ IsGiven value := by
  rw [Option.isSome_iff_exists]
  exact exists_congr fun text => present?_eq_some_iff

theorem present?_eq_none (missing : ¬IsGiven value) : present? value = none := by
  rw [← isSome_present?_iff] at missing
  simpa using missing

/-- When both values are given it does not matter what the verdict would be otherwise. -/
theorem ofPair_of_isGiven (cachedGiven : IsGiven cachedValue) (liveGiven : IsGiven liveValue)
    (otherwise another : Freshness) :
    ofPair cachedValue liveValue otherwise = ofPair cachedValue liveValue another := by
  obtain ⟨old, oldEq⟩ := Option.isSome_iff_exists.mp (isSome_present?_iff.mpr cachedGiven)
  obtain ⟨new, newEq⟩ := Option.isSome_iff_exists.mp (isSome_present?_iff.mpr liveGiven)
  rw [ofPair, ofPair, oldEq, newEq]

theorem ofPair_of_not_isGiven (missing : ¬IsGiven cachedValue ∨ ¬IsGiven liveValue)
    (otherwise : Freshness) : ofPair cachedValue liveValue otherwise = otherwise := by
  rw [ofPair]
  rcases missing with missing | missing
  · rw [present?_eq_none missing]
  · rw [present?_eq_none missing]
    cases present? cachedValue <;> rfl

theorem ofPair_self (given : IsGiven value) (otherwise : Freshness) :
    ofPair value value otherwise = fresh := by
  obtain ⟨text, textEq⟩ := Option.isSome_iff_exists.mp (isSome_present?_iff.mpr given)
  rw [ofPair, textEq]
  exact if_pos rfl

theorem ofPair_self_fresh (value : Option String) : ofPair value value fresh = fresh := by
  by_cases given : IsGiven value
  · exact ofPair_self given fresh
  · exact ofPair_of_not_isGiven (.inl given) fresh

theorem assess_some (cached live : ValidationHeaders) (now : Instant) :
    assess (some cached) live now =
      ofPair cached.etag live.etag
        (ofPair cached.lastModified live.lastModified (ofLifetime cached live now)) :=
  rfl

theorem assess_of_tags (cachedTag : IsGiven cached.etag) (liveTag : IsGiven live.etag)
    (now : Instant) (otherwise : Freshness) :
    assess (some cached) live now = ofPair cached.etag live.etag otherwise := by
  rw [assess_some]
  exact ofPair_of_isGiven cachedTag liveTag _ otherwise

theorem assess_of_dates (oneLacksTag : ¬IsGiven cached.etag ∨ ¬IsGiven live.etag)
    (cachedDate : IsGiven cached.lastModified) (liveDate : IsGiven live.lastModified)
    (now : Instant) (otherwise : Freshness) :
    assess (some cached) live now = ofPair cached.lastModified live.lastModified otherwise := by
  rw [assess_some, ofPair_of_not_isGiven oneLacksTag]
  exact ofPair_of_isGiven cachedDate liveDate _ otherwise

theorem assess_of_lifetime (oneLacksTag : ¬IsGiven cached.etag ∨ ¬IsGiven live.etag)
    (oneLacksDate : ¬IsGiven cached.lastModified ∨ ¬IsGiven live.lastModified) (now : Instant) :
    assess (some cached) live now = ofLifetime cached live now := by
  rw [assess_some, ofPair_of_not_isGiven oneLacksTag, ofPair_of_not_isGiven oneLacksDate]

theorem assess_self (identified : headers.Identify) (now : Instant) :
    assess (some headers) headers now = fresh := by
  rw [ValidationHeaders.Identify, isSome_present?_iff, isSome_present?_iff] at identified
  rw [assess_some]
  rcases identified with tagged | dated
  · exact ofPair_self tagged _
  · rw [ofPair_self dated]
    exact ofPair_self_fresh headers.etag

end Freshness

open Freshness in
/-- The verdict depends on the headers that decide and on nothing else.  It is never changed by the
`expires` headers, by the remembered `cache-control`, or by the live date.  If both sides have a
tag, then only the tags count, and if one of them has none while both have a date of modification,
then only these dates count, in whichever way a tag is still missing.  An empty tag or date of
modification counts as none, and headers with a tag or a date of modification are confirmed by
themselves at any time. -/
theorem verdict_rests_on_deciding_headers (cached live : ValidationHeaders) (now : Instant) :
    (∀ cacheControl expires liveExpires date : Option String,
        assess (some { cached with cacheControl, expires })
          { live with expires := liveExpires, date } now =
        assess (some cached) live now) ∧
      (∀ (otherCached otherLive : ValidationHeaders) (otherNow : Instant),
        IsGiven cached.etag → IsGiven live.etag →
        otherCached.etag = cached.etag → otherLive.etag = live.etag →
        assess (some otherCached) otherLive otherNow = assess (some cached) live now) ∧
      (∀ (otherCached otherLive : ValidationHeaders) (otherNow : Instant),
        ¬IsGiven cached.etag ∨ ¬IsGiven live.etag →
        ¬IsGiven otherCached.etag ∨ ¬IsGiven otherLive.etag →
        IsGiven cached.lastModified → IsGiven live.lastModified →
        otherCached.lastModified = cached.lastModified →
        otherLive.lastModified = live.lastModified →
        assess (some otherCached) otherLive otherNow = assess (some cached) live now) ∧
      (assess (some { cached with etag := some "" }) live now =
          assess (some { cached with etag := none }) live now ∧
        assess (some cached) { live with etag := some "" } now =
          assess (some cached) { live with etag := none } now ∧
        assess (some { cached with lastModified := some "" }) live now =
          assess (some { cached with lastModified := none }) live now ∧
        assess (some cached) { live with lastModified := some "" } now =
          assess (some cached) { live with lastModified := none } now) ∧
      (IsGiven live.etag ∨ IsGiven live.lastModified → assess (some live) live now = fresh) := by
  refine ⟨?_, ?_, ?_, ?_, ?_⟩
  · intro cacheControl expires liveExpires date
    rfl
  · intro otherCached otherLive otherNow cachedTag liveTag sameCached sameLive
    rw [assess_of_tags cachedTag liveTag now fresh,
      assess_of_tags (sameCached ▸ cachedTag) (sameLive ▸ liveTag) otherNow fresh, sameCached,
      sameLive]
  · intro otherCached otherLive otherNow oneLacksTag otherLacksTag cachedDate liveDate sameCached
      sameLive
    rw [assess_of_dates oneLacksTag cachedDate liveDate now fresh,
      assess_of_dates otherLacksTag (sameCached ▸ cachedDate) (sameLive ▸ liveDate) otherNow fresh,
      sameCached, sameLive]
  · have empty : present? (some "") = present? none := rfl
    simp only [assess_some, ofPair, empty]
    exact ⟨rfl, rfl, rfl, rfl⟩
  · intro given
    apply assess_self
    rw [ValidationHeaders.Identify, isSome_present?_iff, isSome_present?_iff]
    exact given

end ScriptLint
