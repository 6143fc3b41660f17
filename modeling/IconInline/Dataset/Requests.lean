import IconInline.Dataset.Cache

/-!
# Requests side by side

Any number of requests for datasets may be under way on one cache. A request gets the cell of its
key at once. It is then answered from the cell, or, while the cell is empty and no other request
loads it, loads the dataset itself. A load that fails or is given up leaves the cell empty, so a
request that waits may try. The steps of different requests come in any order.
-/

namespace IconInline.Dataset

/-- How far a request has come. -/
inductive Stage where
  | waiting
  | loading
  | answered (outcome : Except Failure IconSet)
  | dropped

/-- A request for a dataset, with the cell that it was given. -/
structure Request where
  key : DatasetRef
  place : Nat
  stage : Stage

/-- Is a request in the middle of a load? -/
def Request.isLoading (request : Request) : Bool :=
  match request.stage with
  | .loading => true
  | _ => false

/-- A cache and the requests made to it, in the order in which they were made. -/
structure Traffic where
  cache : Cache := {}
  requests : List Request := []

/-- What happens next. A request is named by its place among the requests. -/
inductive Event where
  | asked (i : Nat) (key : DatasetRef)
  /-- A load begins. -/
  | started (i : Nat) (key : DatasetRef)
  | loaded (i : Nat) (key : DatasetRef) (icons : IconSet)
  | failed (i : Nat) (key : DatasetRef) (failure : Failure)
  /-- A request is given up in the middle of its load. -/
  | aborted (i : Nat) (key : DatasetRef)
  /-- A request that waits is answered from its cell. -/
  | served (i : Nat) (key : DatasetRef) (icons : IconSet)
  /-- A request that waits is given up. -/
  | withdrawn (i : Nat) (key : DatasetRef)
  /-- A dataset is looked for without a request. -/
  | looked (key : DatasetRef) (found : Option IconSet)
  /-- The loaded datasets are counted. -/
  | counted (size : Nat)

namespace Traffic

/-- A new request for a key, which gets the key's cell. -/
def ask (t : Traffic) (key : DatasetRef) : Traffic :=
  let (place, cache) := t.cache.cell key
  ⟨cache, t.requests ++ [⟨key, place, .waiting⟩]⟩

/-- A request has come to another stage. -/
def advance (t : Traffic) (i : Nat) (request : Request) (stage : Stage) : Traffic :=
  { t with requests := t.requests.set i { request with stage } }

/-- A load has put a dataset in the cell of its request. -/
def keep (t : Traffic) (request : Request) (icons : IconSet) : Traffic :=
  { t with cache := t.cache.fill request.place icons }

end Traffic

/-- The steps that can be taken. -/
inductive Step (t : Traffic) : Event → Traffic → Prop where
  | ask (key : DatasetRef) : Step t (.asked t.requests.length key) (t.ask key)
  | start {i : Nat} {request : Request} (found : t.requests[i]? = some request)
    (waiting : request.stage = .waiting) (empty : t.cache.content? request.place = none)
    (free : ∀ other ∈ t.requests, other.place = request.place → other.isLoading = false) :
    Step t (.started i request.key) (t.advance i request .loading)
  | load {i : Nat} {request : Request} (icons : IconSet)
    (found : t.requests[i]? = some request) (loading : request.stage = .loading) :
    Step t (.loaded i request.key icons)
      ((t.keep request icons).advance i request (.answered (.ok icons)))
  | fail {i : Nat} {request : Request} (failure : Failure)
    (found : t.requests[i]? = some request) (loading : request.stage = .loading) :
    Step t (.failed i request.key failure) (t.advance i request (.answered (.error failure)))
  | abort {i : Nat} {request : Request} (found : t.requests[i]? = some request)
    (loading : request.stage = .loading) :
    Step t (.aborted i request.key) (t.advance i request .dropped)
  | serve {i : Nat} {request : Request} {icons : IconSet}
    (found : t.requests[i]? = some request) (waiting : request.stage = .waiting)
    (filled : t.cache.content? request.place = some icons) :
    Step t (.served i request.key icons) (t.advance i request (.answered (.ok icons)))
  | withdraw {i : Nat} {request : Request} (found : t.requests[i]? = some request)
    (waiting : request.stage = .waiting) :
    Step t (.withdrawn i request.key) (t.advance i request .dropped)
  | look (key : DatasetRef) : Step t (.looked key (t.cache.find? key)) t
  | count : Step t (.counted t.cache.size) t

/-- Some steps in a row, beginning with an empty cache and no requests. -/
inductive Run : List Event → Traffic → Prop where
  | start : Run [] {}
  | snoc {events : List Event} {t t' : Traffic} {event : Event} (before : Run events t)
    (step : Step t event t') : Run (events ++ [event]) t'

end IconInline.Dataset
