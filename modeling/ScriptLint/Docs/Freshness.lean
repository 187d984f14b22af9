import ScriptLint.Cache.Headers

/-!
# Freshness

Whether a remembered page is still the page that the server has.  The first pair of headers that
can decide does: equal tags, else equal dates of modification, else the lifetime that the server
gives, counted from the date of the remembered response.
-/

namespace ScriptLint

open Calendar

/-- What is known of a remembered page. -/
inductive Freshness where
  | fresh
  | stale
  | unknown
deriving DecidableEq, Repr

namespace Freshness

/-- Anything but a page known to be valid has to be fetched. -/
def needsRefresh (freshness : Freshness) : Bool :=
  freshness != fresh

def ofValues (cached live : String) : Freshness :=
  if cached = live then fresh else stale

/-- A header value that is present and not empty. -/
def present? (value : Option String) : Option String :=
  value.filter fun text => text != ""

/-- The date of a remembered response; the epoch when it has no readable date. -/
def responseDate (cached : ValidationHeaders) : Instant :=
  (cached.date.bind readHttpDate?).getD Instant.epoch

/-- A page of a given age decides by the lifetime in seconds, its age being in milliseconds. -/
def ofAge (age : Int) (lifetime : Nat) : Freshness :=
  if age > lifetime * 1000 then stale else fresh

def ofLifetime (cached live : ValidationHeaders) (now : Instant) : Freshness :=
  match live.maxAge? with
  | some lifetime => ofAge (now.millisSince (responseDate cached)) lifetime
  | none => unknown

def assess (cached : Option ValidationHeaders) (live : ValidationHeaders) (now : Instant) :
    Freshness :=
  match cached with
  | none => unknown
  | some cached =>
    match present? cached.etag, present? live.etag with
    | some old, some new => ofValues old new
    | _, _ =>
      match present? cached.lastModified, present? live.lastModified with
      | some old, some new => ofValues old new
      | _, _ => ofLifetime cached live now

end Freshness

end ScriptLint
