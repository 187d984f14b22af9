import ScriptLint.Cache.Headers
import ScriptLint.Docs.Error

/-!
# Documentation sites

A site answers requests for pages: for a whole page, or for its headers alone.  Some sites hold
their pages in memory, so that they answer without a network.
-/

namespace ScriptLint

/-- A request for a page. -/
inductive Request where
  | head (page : String)
  | fetch (page : String)
deriving DecidableEq, Repr

namespace Request

def text : Request → String
  | head page => "HEAD " ++ page
  | fetch page => "GET " ++ page

end Request

/-- A page with the headers it came with. -/
structure FetchedPage where
  markup : String
  headers : ValidationHeaders
deriving DecidableEq

/-- A place that pages come from. -/
structure Site where
  url : String → String
  head : String → Except DocsError ValidationHeaders
  fetch : String → Except DocsError FetchedPage

namespace Site

/-- The address of a page below a base, whose slashes at the end do not count. -/
def joinUrl (base page : String) : String :=
  String.ofList (base.toList.reverse.dropWhile (· == '/')).reverse ++ "/" ++ page

end Site

/-- How a page is held in memory. -/
inductive HeldPage where
  | served (page : FetchedPage)
  | refused (status : Nat)
  | broken
deriving DecidableEq

/-- Pages in memory. -/
structure MemorySite where
  base : String
  pages : List (String × HeldPage)
  refusesHeads : Bool

namespace MemorySite

/-- A site without pages. -/
def ofBase (base : String) : MemorySite :=
  ⟨base, [], false⟩

/-- The site without a page. -/
def remove (site : MemorySite) (page : String) : MemorySite :=
  { site with pages := site.pages.filter fun entry => entry.1 != page }

/-- The site with a page, in place of the one it had. -/
def set (site : MemorySite) (page : String) (held : HeldPage) : MemorySite :=
  { site.remove page with pages := (page, held) :: (site.remove page).pages }

def url (site : MemorySite) (page : String) : String :=
  site.base ++ "/" ++ page

def fetch (site : MemorySite) (page : String) : Except DocsError FetchedPage :=
  match site.pages.lookup page with
  | some (.served found) => .ok found
  | some (.refused status) => .error (.refused status (site.url page))
  | some .broken => .error (.unreachable (site.url page) "connection reset")
  | none => .error (.refused 404 (site.url page))

def head (site : MemorySite) (page : String) : Except DocsError ValidationHeaders :=
  if site.refusesHeads then .error (.unreachable (site.url page) "connection refused")
  else (site.fetch page).map FetchedPage.headers

def toSite (site : MemorySite) : Site :=
  ⟨site.url, site.head, site.fetch⟩

end MemorySite

end ScriptLint
