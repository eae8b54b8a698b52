/-!
The partitions of the cloud and the regions of each.
-/

namespace ControlPlane.Catalogue

def partitions : List String := ["aws", "aws-us-gov", "aws-cn"]

def commercialRegions : List String :=
  ["af-south-1", "ap-east-1", "ap-northeast-1", "ap-northeast-2", "ap-northeast-3", "ap-south-1",
    "ap-southeast-1", "ap-southeast-2", "ca-central-1", "eu-central-1", "eu-north-1", "eu-south-1",
    "eu-west-1", "eu-west-2", "eu-west-3", "me-south-1", "sa-east-1", "us-east-1", "us-east-2",
    "us-west-1", "us-west-2"]

def governmentRegions : List String := ["us-gov-east-1", "us-gov-west-1"]

def chinaRegions : List String := ["cn-north-1", "cn-northwest-1"]

def regions? : String → Option (List String)
  | "aws" => some commercialRegions
  | "aws-us-gov" => some governmentRegions
  | "aws-cn" => some chinaRegions
  | _ => none

def partitionOf? (region : String) : Option String :=
  partitions.find? fun p => (regions? p).any (·.contains region)

end ControlPlane.Catalogue
