import Moderation.Service.Basic

/-!
Loading chains. A chain that cannot be read leaves the one of the same name in force.
-/

namespace Moderation.Service

def chain? (s : Service) (name : String) : Option Chain := s.chains.lookup name

def putChain (s : Service) (c : Chain) : Service :=
  { s with chains := (c.name, c) :: s.chains.filter (fun e => e.1 != c.name) }

def loadChain (s : Service) (name source : String) : Except FilterError Chain × Service :=
  match Chain.ofSource s.registry name source with
  | .ok c => (.ok c, s.putChain c)
  | .error e => (.error (.parse name e), s)

def loadFile (s : Service) (name path : String) (file : FileText) :
    Except FilterError Chain × Service :=
  match textOf path file with
  | .ok source => s.loadChain name source
  | .error e => (.error e, s)

def rulePath (c : Config) (name : String) : String := joinPath c.ruleDirectory (name ++ ".txt")

/-- Loads the chains of the given kinds, passing by files that are missing or faulty. Gives the names
of those that were loaded. -/
def loadKinds (files : Files) : List FilterKind → Service → List String × Service
  | [], s => ([], s)
  | k :: rest, s =>
    if s.config.enables k then
      let path := rulePath s.config k.name
      match s.loadFile k.name path (files path) with
      | (.ok _, s) =>
        let (names, s) := loadKinds files rest s
        (k.name :: names, s)
      | (.error _, s) => loadKinds files rest s
    else loadKinds files rest s

def loadDirectory (s : Service) (files : Files) : List String × Service :=
  loadKinds files FilterKind.all s

def unloadChain (s : Service) (name : String) : Bool × Service :=
  ((s.chain? name).isSome, { s with chains := s.chains.filter (fun e => e.1 != name) })

def chainNames (s : Service) : List String :=
  (s.chains.map Prod.fst).mergeSort (fun a b => decide (a ≤ b))

end Moderation.Service
