import ControlPlane.Directory.Record

/-!
What the operations of the directory service are asked.
-/

namespace ControlPlane

structure VpcSettings where
  vpc : String
  subnets : List String
  deriving Repr, DecidableEq

structure ConnectSettings where
  vpc : String
  subnets : List String
  dnsAddresses : List String
  userName : String
  deriving Repr, DecidableEq

def VpcSettings.record : Record VpcSettings VpcSettings :=
  (Record.start VpcSettings.mk)
    |>.required "VpcId" .text (·.vpc)
    |>.listOrEmpty "SubnetIds" .text (·.subnets)

def ConnectSettings.record : Record ConnectSettings ConnectSettings :=
  (Record.start ConnectSettings.mk)
    |>.required "VpcId" .text (·.vpc)
    |>.listOrEmpty "SubnetIds" .text (·.subnets)
    |>.listOrEmpty "CustomerDnsIps" .text (·.dnsAddresses)
    |>.required "CustomerUserName" .text (·.userName)

structure CreateDirectory where
  name : String
  shortName : Option String
  password : String
  description : Option String
  size : String
  settings : Option VpcSettings
  tags : List Tag
  deriving Repr, DecidableEq

def CreateDirectory.record : Record CreateDirectory CreateDirectory :=
  (Record.start CreateDirectory.mk)
    |>.required "Name" .text (·.name)
    |>.optional "ShortName" .text (·.shortName)
    |>.required "Password" .text (·.password)
    |>.optional "Description" .text (·.description)
    |>.required "Size" .text (·.size)
    |>.optional "VpcSettings" VpcSettings.record.codec (·.settings)
    |>.listOrEmpty "Tags" Tag.codec (·.tags)

structure CreateMicrosoftDirectory where
  name : String
  shortName : Option String
  password : String
  description : Option String
  settings : Option VpcSettings
  edition : Option String
  tags : List Tag
  deriving Repr, DecidableEq

def CreateMicrosoftDirectory.record : Record CreateMicrosoftDirectory CreateMicrosoftDirectory :=
  (Record.start CreateMicrosoftDirectory.mk)
    |>.required "Name" .text (·.name)
    |>.optional "ShortName" .text (·.shortName)
    |>.required "Password" .text (·.password)
    |>.optional "Description" .text (·.description)
    |>.optional "VpcSettings" VpcSettings.record.codec (·.settings)
    |>.optional "Edition" .text (·.edition)
    |>.listOrEmpty "Tags" Tag.codec (·.tags)

structure ConnectDirectory where
  name : String
  shortName : Option String
  password : String
  description : Option String
  size : String
  settings : Option ConnectSettings
  tags : List Tag
  deriving Repr, DecidableEq

def ConnectDirectory.record : Record ConnectDirectory ConnectDirectory :=
  (Record.start ConnectDirectory.mk)
    |>.required "Name" .text (·.name)
    |>.optional "ShortName" .text (·.shortName)
    |>.required "Password" .text (·.password)
    |>.optional "Description" .text (·.description)
    |>.required "Size" .text (·.size)
    |>.optional "ConnectSettings" ConnectSettings.record.codec (·.settings)
    |>.listOrEmpty "Tags" Tag.codec (·.tags)

structure DescribeDirectories where
  ids : List String
  nextToken : Option String
  limit : Option Nat
  deriving Repr, DecidableEq

def DescribeDirectories.record : Record DescribeDirectories DescribeDirectories :=
  (Record.start DescribeDirectories.mk)
    |>.listOrEmpty "DirectoryIds" .text (·.ids)
    |>.optional "NextToken" .text (·.nextToken)
    |>.optional "Limit" .word32 (·.limit)

structure AddTags where
  directory : String
  tags : List Tag
  deriving Repr, DecidableEq

def AddTags.record : Record AddTags AddTags :=
  (Record.start AddTags.mk)
    |>.required "ResourceId" .text (·.directory)
    |>.required "Tags" (.list Tag.codec) (·.tags)

structure RemoveTags where
  directory : String
  keys : List String
  deriving Repr, DecidableEq

def RemoveTags.record : Record RemoveTags RemoveTags :=
  (Record.start RemoveTags.mk)
    |>.required "ResourceId" .text (·.directory)
    |>.required "TagKeys" (.list .text) (·.keys)

structure ListDirectoryTags where
  directory : String
  nextToken : Option String
  limit : Option Nat
  deriving Repr, DecidableEq

def ListDirectoryTags.record : Record ListDirectoryTags ListDirectoryTags :=
  (Record.start ListDirectoryTags.mk)
    |>.required "ResourceId" .text (·.directory)
    |>.optional "NextToken" .text (·.nextToken)
    |>.optional "Limit" .word32 (·.limit)

structure CreateAlias where
  directory : String
  aliasName : String
  deriving Repr, DecidableEq

def CreateAlias.record : Record CreateAlias CreateAlias :=
  (Record.start CreateAlias.mk)
    |>.required "DirectoryId" .text (·.directory)
    |>.required "Alias" .text (·.aliasName)

structure SwitchSso where
  directory : String
  userName : Option String
  password : Option String
  deriving Repr, DecidableEq

def SwitchSso.record : Record SwitchSso SwitchSso :=
  (Record.start SwitchSso.mk)
    |>.required "DirectoryId" .text (·.directory)
    |>.optional "UserName" .text (·.userName)
    |>.optional "Password" .text (·.password)

end ControlPlane
