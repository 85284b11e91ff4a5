import RouteLens.Artisan.Fetch
import RouteLens.Route.Listing

/-!
# Route cache

The route table of a workspace, replaced as a whole whenever a fetch brings a listing. At most one
fetch is under way at a time, and none without a directory to fetch in. A fetch that fails leaves
the table as it is.
-/

namespace RouteLens

/-- How a fetch ended. -/
inductive FetchEnd
  | fetched (listing : String)
  | failed (error : FetchError)
  /-- The fetch broke off without a result. -/
  | crashed

namespace FetchEnd

/-- How a fetch with a result ended. -/
def ofExcept : Except FetchError String → FetchEnd
  | .ok listing => .fetched listing
  | .error error => .failed error

end FetchEnd

/-- The route table of a workspace, and whether a fetch is under way. -/
structure RouteCache where
  /-- The directory to fetch in. -/
  dir : Option Path
  refreshing : Bool := false
  table : RouteTable := ∅

namespace RouteCache

/-- Starts a fetch, unless there is no directory or a fetch is under way. -/
def start? (cache : RouteCache) : Option (Path × RouteCache) :=
  match cache.dir with
  | none => none
  | some dir => if cache.refreshing then none else some (dir, { cache with refreshing := true })

/-- The table after a fetch has ended. -/
def tableAfter (table : RouteTable) : FetchEnd → RouteTable
  | .fetched listing => Listing.table listing
  | .failed _ => table
  | .crashed => table

/-- Ends the fetch that is under way. -/
def finish (cache : RouteCache) (ending : FetchEnd) : RouteCache :=
  { cache with refreshing := false, table := tableAfter cache.table ending }

/-- Whether the table is still to be loaded: it is empty and no fetch is under way. -/
def wantsLoad (cache : RouteCache) : Bool :=
  !cache.refreshing && cache.table.isEmpty

end RouteCache

end RouteLens
