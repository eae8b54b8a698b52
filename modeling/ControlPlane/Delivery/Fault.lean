import ControlPlane.Fault

/-!
What can go wrong in the delivery stream service.
-/

namespace ControlPlane

inductive DeliveryFault where
  | validation (e : ValidationError)
  | nameTaken (name account : String)
  | streamLimit (limit : Nat) (names : List String)
  | sourceNotApplicable
  | sourceRequired
  | oneDestination
  | tagLimit (limit : Nat)
  | notFound (name account : String)
  deriving Repr, DecidableEq

namespace DeliveryFault

def quoteNames (names : List String) : String :=
  "[" ++ String.intercalate ", " (names.map fun n => "'" ++ n ++ "'") ++ "]"

def message : DeliveryFault → String
  | validation e => e.message
  | nameTaken name account =>
    "Firehose " ++ name ++ " under accountId " ++ account ++ " already exists"
  | streamLimit limit names =>
    "You have already consumed your firehose quota of " ++ toString limit
      ++ " hoses. Firehose names: " ++ quoteNames names
  | sourceNotApplicable =>
    "KinesisSourceStreamConfig is only applicable for KinesisStreamAsSource stream type"
  | sourceRequired =>
    "KinesisStreamSourceConfiguration is required for KinesisStreamAsSource stream type"
  | oneDestination => "Exactly one destination configuration is supported for a Firehose"
  | tagLimit limit => "You can't add more than " ++ toString limit ++ " tags to a delivery stream"
  | notFound name account => "Firehose " ++ name ++ " under account " ++ account ++ " not found."

def code : DeliveryFault → String
  | validation _ => "ValidationException"
  | nameTaken _ _ => "ResourceInUseException"
  | streamLimit _ _ | tagLimit _ => "LimitExceededException"
  | sourceNotApplicable | sourceRequired | oneDestination => "InvalidArgumentException"
  | notFound _ _ => "ResourceNotFoundException"

end DeliveryFault

instance : Fault DeliveryFault where
  code := DeliveryFault.code
  message := DeliveryFault.message
  status _ := ServiceError.badRequest

end ControlPlane
