import BucketReplication.Document.Shape
import BucketReplication.Key.Capability

/-! # Application keys

What is known of a key, its secret apart, and the question whether it is fit
for a task. -/

namespace BucketReplication

open Document (Shape Fields)

structure ApplicationKey where
  id : String
  name : String
  bucketId : Option String
  /-- What the names of all files begin with that the key reaches. -/
  fileNameStart : Option String
  capabilities : CapabilitySet
deriving DecidableEq

namespace ApplicationKey

def hasCapabilities (key : ApplicationKey) (required : List Capability) : Bool :=
  key.capabilities.holdsAll required

/-- The key reaches only some of the files. An empty restriction is none. -/
def isNarrowed (key : ApplicationKey) : Bool :=
  match key.fileNameStart with
  | none => false
  | some start => !start.isEmpty

def capabilityShape : Shape Capability :=
  .converted .text Capability.ofName Capability.name

def shape : Shape ApplicationKey :=
  .converted
    (.record "ApplicationKey"
      (.field "applicationKeyId" .text none
      (.field "keyName" .text none
      (.field "bucketId" (.optional .text) (some none)
      (.field "namePrefix" (.optional .text) (some none)
      (.field "capabilities" (.sequence capabilityShape) (some [])
      .done))))))
    (fun (id, name, bucketId, fileNameStart, capabilities, ()) =>
      ⟨id, name, bucketId, fileNameStart, .ofList capabilities⟩)
    (fun key =>
      (key.id, key.name, key.bucketId, key.fileNameStart, key.capabilities.items, ()))

end ApplicationKey

end BucketReplication
