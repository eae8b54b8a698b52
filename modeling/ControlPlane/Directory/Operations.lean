import ControlPlane.Directory.Service

/-!
The operations of the directory service by name.
-/

namespace ControlPlane.DirectoryService

abbrev Op := Operation Lookup DirectoryService DirectoryFault

def idAnswer : Codec String := .single "DirectoryId" .text

def createDirectoryOp : Op where
  Input := CreateDirectory
  Output := String
  input := CreateDirectory.record.codec
  output := idAnswer
  run s at_ input := (s.create at_ input.draft).run

def createMicrosoftOp : Op where
  Input := CreateMicrosoftDirectory
  Output := String
  input := CreateMicrosoftDirectory.record.codec
  output := idAnswer
  run s at_ input := (s.create at_ input.draft).run

def connectDirectoryOp : Op where
  Input := ConnectDirectory
  Output := String
  input := ConnectDirectory.record.codec
  output := idAnswer
  run s at_ input := (s.create at_ input.draft).run

def deleteDirectoryOp : Op :=
  .writing (.single "DirectoryId" .text) idAnswer fun s _ id => s.deleteDirectory id

def describeDirectoriesOp : Op :=
  .reading DescribeDirectories.record.codec
    (Page.record "DirectoryDescriptions" Directory.record.codec).codec describeDirectories

def limitsOp : Op :=
  .reading .ignored (.single "DirectoryLimits" DirectoryLimits.record.codec) fun s _ => .ok s.limits

def addTagsOp : Op :=
  .writing AddTags.record.codec .nothing fun s _ input => s.addTags input

def removeTagsOp : Op :=
  .writing RemoveTags.record.codec .nothing fun s _ input => s.removeTags input

def listTagsOp : Op :=
  .reading ListDirectoryTags.record.codec (Page.record "Tags" Tag.codec).codec listTags

def createAliasOp : Op :=
  .writing CreateAlias.record.codec CreateAlias.record.codec fun s _ input => s.createAlias input

def enableSsoOp : Op :=
  .writing SwitchSso.record.codec .nothing fun s _ input => s.enableSso input

def disableSsoOp : Op :=
  .writing SwitchSso.record.codec .nothing fun s _ input => s.disableSso input

def operations : Catalog Lookup DirectoryService DirectoryFault
  | "CreateDirectory" => some createDirectoryOp
  | "CreateMicrosoftAD" => some createMicrosoftOp
  | "ConnectDirectory" => some connectDirectoryOp
  | "DeleteDirectory" => some deleteDirectoryOp
  | "DescribeDirectories" => some describeDirectoriesOp
  | "GetDirectoryLimits" => some limitsOp
  | "AddTagsToResource" => some addTagsOp
  | "RemoveTagsFromResource" => some removeTagsOp
  | "ListTagsForResource" => some listTagsOp
  | "CreateAlias" => some createAliasOp
  | "EnableSso" => some enableSsoOp
  | "DisableSso" => some disableSsoOp
  | _ => none

end ControlPlane.DirectoryService
