import UiMarkup.Cache
import UiMarkup.Error
import UiMarkup.Files.System
import UiMarkup.Text.Quoted

namespace UiMarkup

inductive ChangeKind where
  | create
  | modify
  | remove
  | other
deriving DecidableEq, Repr

structure Change where
  kind : ChangeKind
  places : List (List String)

inductive Invalidation where
  | modified (place : List String)
  | removed (place : List String)
deriving DecidableEq, Repr

/-- Someone who is told of invalidations: whether they still listen, and what they were told and
have not taken note of yet. -/
structure Subscriber where
  listening : Bool
  inbox : List Invalidation
deriving DecidableEq, Repr

def Subscriber.receive (subscriber : Subscriber) (invalidation : Invalidation) : Subscriber :=
  { subscriber with inbox := subscriber.inbox ++ [invalidation] }

/-- The watched files with their directories, the watched names in each directory, whether changes
are listened to, and who is told of invalidations. -/
structure Watcher where
  files : List (List String × List String)
  directories : List (List String × List String)
  running : Bool
  subscribers : List Subscriber
deriving DecidableEq

namespace Watcher

def idle : Watcher := ⟨[], [], false, []⟩

def isWatching (watcher : Watcher) (key : List String) : Bool :=
  Fields.has watcher.files key

def directoryCount (watcher : Watcher) : Nat :=
  watcher.directories.length

def lookup? (watcher : Watcher) (place : List String) : Option (List String) :=
  match place.getLast?, Fields.value? watcher.directories place.dropLast with
  | some name, some names => if names.contains name then some (place.dropLast ++ [name]) else none
  | _, _ => none

def register (watcher : Watcher) (directory : List String) (name : String) : Watcher :=
  let names := (Fields.value? watcher.directories directory).getD []
  { watcher with
    files := Fields.put watcher.files (directory ++ [name]) directory
    directories := Fields.put watcher.directories directory (names ++ [name]) }

/-- Removes a file; tells whether it was there. A directory without watched names is dropped. -/
def deregister (watcher : Watcher) (key : List String) : Watcher × Bool :=
  match Fields.value? watcher.files key with
  | none => (watcher, false)
  | some directory =>
    let names := ((Fields.value? watcher.directories directory).getD []).filter fun name =>
      some name ≠ key.getLast?
    let directories :=
      if names.isEmpty then Fields.without watcher.directories directory
      else Fields.put watcher.directories directory names
    ({ watcher with files := Fields.without watcher.files key, directories }, true)

def watch (watcher : Watcher) (files : FileSystem) (path : String) : Watcher × Except Error Unit :=
  if files.exists? path then
    match files.canonical path with
    | .error fault => (watcher, .error (.unreadable path fault))
    | .ok place =>
      match place.getLast? with
      | none => (watcher, .error (.notFound (Path.ofNames place)))
      | some name =>
        let started := { watcher with running := true }
        if started.isWatching place then (started, .ok ())
        else (started.register place.dropLast name, .ok ())
  else (watcher, .error (.notFound path))

def stop (watcher : Watcher) : Watcher :=
  { watcher with files := [], directories := [], running := false }

def subscribe (watcher : Watcher) : Watcher :=
  { watcher with subscribers := watcher.subscribers ++ [⟨true, []⟩] }

/-- Lets a subscriber stop to listen. It is forgotten when there is something to tell. -/
def leave (watcher : Watcher) (index : Nat) : Watcher :=
  { watcher with
    subscribers := watcher.subscribers.modify index fun subscriber =>
      { subscriber with listening := false } }

def collect (watcher : Watcher) (index : Nat) : Watcher × List Invalidation :=
  let taken := (watcher.subscribers[index]?.map Subscriber.inbox).getD []
  ({ watcher with
    subscribers := watcher.subscribers.modify index fun subscriber =>
      { subscriber with inbox := [] } }, taken)

/-- Tells all subscribers that listen; the others are forgotten. -/
def notify (watcher : Watcher) (invalidation : Invalidation) : Watcher :=
  { watcher with
    subscribers := (watcher.subscribers.filter Subscriber.listening).map fun subscriber =>
      subscriber.receive invalidation }

/-- Deals with one place that a change names. A watched file is evicted under the key that it has
now. -/
def handlePlace {α : Type} (files : FileSystem) (removal : Bool) (watcher : Watcher) (cache : Cache α)
    (place : List String) : Watcher × Cache α :=
  match watcher.lookup? place with
  | none => (watcher, cache)
  | some file =>
    if removal || !files.hasPlace file then
      ((watcher.deregister file).1.notify (.removed file), cache.evict (files.keyAt file))
    else (watcher.notify (.modified file), cache.evict (files.keyAt file))

def handlePlaces {α : Type} (files : FileSystem) (removal : Bool) (watcher : Watcher) (cache : Cache α) :
    List (List String) → Watcher × Cache α
  | [] => (watcher, cache)
  | place :: rest =>
    let (watcher, cache) := handlePlace files removal watcher cache place
    handlePlaces files removal watcher cache rest

def handle {α : Type} (files : FileSystem) (watcher : Watcher) (cache : Cache α) (change : Change) :
    Watcher × Cache α :=
  match change.kind with
  | .other => (watcher, cache)
  | .remove => handlePlaces files true watcher cache change.places
  | .create | .modify => handlePlaces files false watcher cache change.places

def precedes : List String → List String → Bool
  | [], _ => true
  | _ :: _, [] => false
  | a :: left, b :: right => if a = b then precedes left right else decide (a < b)

def sortedFiles (watcher : Watcher) : List (List String) :=
  (Fields.keys watcher.files).mergeSort precedes

def describe (watcher : Watcher) : String :=
  let files := watcher.sortedFiles.map fun place => Text.quoted (Path.ofNames place)
  "FileWatcher \x7b files: [" ++ String.intercalate ", " files ++ "], running: "
    ++ (if watcher.running then "true" else "false") ++ " \x7d"

end Watcher

end UiMarkup
