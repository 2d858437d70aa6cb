/-!
Sources to try the program on.
-/

set_option autoImplicit false

namespace TypeAtlas

/-- A source with a name. -/
structure Sample where
  name : String
  /-- What it is about, in one line. -/
  description : String
  source : String

namespace Sample

/-- Lines as one text. -/
def ofLines (lines : List String) : String := "\n".intercalate lines

/-- The lines of the sample on tasks. -/
def taskManagementLines : List String :=
  ["interface Node \x7b",
    "  id: string;",
    "  path: string;",
    "  source: string;",
    "  get meta(): Record<string, unknown>;",
    "  get title(): string;",
    "  get links(): Node[];",
    "  get backlinks(): Node[];",
    "  get tasks(): Task[];",
    "\x7d;",
    "",
    "interface Task \x7b",
    "  title: string;",
    "  children: Task[];",
    "  status: \"default\" | \"active\" | \"done\" | \"cancelled\";",
    "  schedule: TaskSchedule;",
    "  sessions: TaskSession[];",
    "  get isInProgress(): boolean;",
    "\x7d",
    "",
    "interface TaskSchedule \x7b",
    "  start: Date;",
    "  end: Date;",
    "  get duration(): number;",
    "  get isCurrent(): boolean;",
    "\x7d",
    "",
    "interface TaskSession \x7b",
    "  start: Date;",
    "  end?: Date;",
    "  get duration(): number;",
    "  get isCurrent(): boolean;",
    "\x7d"]

/-- The lines of the sample on clients. -/
def apiClientsLines : List String :=
  ["export interface IName \x7b",
    "  firstName: string;",
    "  middleName: string;",
    "  lastName: string;",
    "  fullName: string;",
    "\x7d",
    "",
    "export interface IPhone \x7b",
    "  _id: RandomUuid;",
    "  wmePhoneId: string;",
    "  phoneNumber: string;",
    "  countryCode: string;",
    "  extension?: string;",
    "  country?: string;",
    "  phoneType?: string;",
    "  note?: string;",
    "  expiredAt?: Date;",
    "  isAccounting: boolean;",
    "  isAccountingTms: boolean;",
    "  isPrivate: boolean;",
    "  isPreferred: boolean;",
    "  isDeleted: boolean;",
    "  createdBy?: string;",
    "  updatedBy?: string;",
    "\x7d",
    "",
    "export interface IEmail \x7b",
    "  _id: RandomUuid;",
    "  wmeEmailId: string;",
    "  emailAddress: string;",
    "  emailType?: string;",
    "  note?: string;",
    "  expiredAt?: Date;",
    "  isAccounting: boolean;",
    "  isAccountingTms: boolean;",
    "  isPrivate: boolean;",
    "  isPreferred: boolean;",
    "  isDeleted: boolean;",
    "  createdBy?: string;",
    "  updatedBy?: string;",
    "\x7d",
    "",
    "export interface IAddress \x7b",
    "  _id: RandomUuid;",
    "  wmeAddressId: string;",
    "  line1: string;",
    "  line2?: string;",
    "  city: string;",
    "  state: string;",
    "  postalCode: string;",
    "  country: string;",
    "  addressType?: string;",
    "  note?: string;",
    "  expiredAt?: Date; // for migration only",
    "  isAccounting: boolean;",
    "  isAccountingTms: boolean;",
    "  isPrivate: boolean;",
    "  isPreferred: boolean;",
    "  isDeleted: boolean;",
    "  createdBy?: string;",
    "  updatedBy?: string;",
    "\x7d",
    "",
    "export interface IClient \x7b",
    "  _id: string;",
    "  clientId: Uuid;",
    "  preferredName: \x7b",
    "    fullName: string;",
    "  \x7d;",
    "  profileImagePath: string;",
    "\x7d",
    "",
    "export interface IBuyer \x7b",
    "  _id: string;",
    "  buyerId: Uuid;",
    "  buyerName: string;",
    "  profileImagePath: string;",
    "\x7d",
    "",
    "export interface INote \x7b",
    "  _id: RandomUuid;",
    "  note: string;",
    "  typeString: string;",
    "  noteText: string;",
    "  createdBy: string;",
    "  UpdatedBy: string;",
    "\x7d",
    "",
    "// Assuming addressSchema, emailSchema, and phoneSchema are defined elsewhere",
    "// and have corresponding TypeScript interfaces.",
    "",
    "export interface IContact \x7b",
    "  wmeContactId: number;",
    "  preferredName: IName;",
    "  legalName: IName;",
    "  nickNames: string[];",
    "  addresses: IAddress[];",
    "  emails: IEmail[];",
    "  phones: IPhone[];",
    "  clients: IClient[];",
    "  buyers: IBuyer[];",
    "  companyName: string;",
    "  jobTitle: string;",
    "  note: string;",
    "  createdBy: string;",
    "  isDeleted: boolean;",
    "\x7d",
    "",
    "export interface IContactSchema extends IContact \x7b",
    "  _id: RandomUuid;",
    "  notes: INote[];",
    "  isWmeDefault: boolean;",
    "\x7d",
    ""]

/-- The lines of the sample on venues. -/
def apiVenuesLines : List String :=
  ["export interface IName \x7b",
    "  firstName: string;",
    "  middleName: string;",
    "  lastName: string;",
    "  fullName: string;",
    "\x7d",
    "",
    "export interface IAddress \x7b",
    "  _id: RandomUuid;",
    "  wmeAddressId: number;",
    "  line1: string;",
    "  line2: string;",
    "  city: string;",
    "  state: string;",
    "  postalCode: string;",
    "  country: string;",
    "  addressType: string;",
    "  isPreferred: boolean;",
    "  isPrivate: boolean;",
    "  note: string;",
    "  expiredAt: Date;",
    "  longitude: string;",
    "  latitude: string;",
    "  createdBy: string;",
    "  updatedBy: string;",
    "\x7d",
    "",
    "export interface ISocialMedia \x7b",
    "  _id: RandomUuid;",
    "  socialMediaType: string;",
    "  url: string;",
    "  createdBy: string;",
    "  updatedBy: string;",
    "\x7d",
    "",
    "export interface IHistoricalName \x7b",
    "  _id: RandomUuid;",
    "  name: string;",
    "  createdBy: string;",
    "  updatedBy: string;",
    "\x7d",
    "",
    "export interface IContact \x7b",
    "  _id: string;",
    "  contactId: Uuid;",
    "  preferredName: IName;",
    "  companyName: string;",
    "  jobTitle: string;",
    "  createdBy: string;",
    "  updatedBy: string;",
    "  profileImagePath: string;",
    "\x7d",
    "",
    "export interface IAgent \x7b",
    "  _id: string;",
    "  agentId: RandomUuid;",
    "  preferredName: IName;",
    "  securityGroups: string[];",
    "  initials: string;",
    "  userType: string;",
    "  isPoint: boolean;",
    "  department: string;",
    "  departmentGroup: string;",
    "  profileImagePath: string;",
    "  createdBy: string;",
    "  updatedBy: string;",
    "\x7d",
    "",
    "export interface IVenue \x7b",
    "  wmeVenueId: Uuid;",
    "  profileImagePath: string;",
    "  historicalNames: IHistoricalName[];",
    "  addresses: IAddress[];",
    "  information: string;",
    "  ownerShip: string;",
    "  buyerForVenue: string;",
    "  currency: string;",
    "  seatingLayouts: string[];",
    "  isAlcoholServed: boolean;",
    "  features: string[];",
    "  isDeleted: boolean;",
    "  socialMedias: ISocialMedia[];",
    "  externalContacts: IContact[];",
    "  companyName: string;",
    "  sensitiveTerritory: boolean;",
    "  venueType: string;",
    "  capacity: string;",
    "  agentContacts: IAgent[];",
    "\x7d",
    "",
    "export interface IPhone \x7b",
    "  _id: RandomUuid;",
    "  wmePhoneId: string;",
    "  phoneNumber: string;",
    "  countryCode: string;",
    "  extension?: string;",
    "  country?: string;",
    "  phoneType?: string;",
    "  note?: string;",
    "  expiredAt?: Date;",
    "  isAccounting: boolean;",
    "  isAccountingTms: boolean;",
    "  isPrivate: boolean;",
    "  isPreferred: boolean;",
    "  isDeleted: boolean;",
    "  createdBy?: string;",
    "  updatedBy?: string;",
    "\x7d",
    "",
    "export interface IEmail \x7b",
    "  _id: RandomUuid;",
    "  wmeEmailId: string;",
    "  emailAddress: string;",
    "  emailType?: string;",
    "  note?: string;",
    "  expiredAt?: Date;",
    "  isAccounting: boolean;",
    "  isAccountingTms: boolean;",
    "  isPrivate: boolean;",
    "  isPreferred: boolean;",
    "  isDeleted: boolean;",
    "  createdBy?: string;",
    "  updatedBy?: string;",
    "\x7d",
    "",
    "export interface IAddress \x7b",
    "  _id: RandomUuid;",
    "  wmeAddressId: string;",
    "  line1: string;",
    "  line2?: string;",
    "  city: string;",
    "  state: string;",
    "  postalCode: string;",
    "  country: string;",
    "  addressType?: string;",
    "  note?: string;",
    "  expiredAt?: Date; // for migration only",
    "  isAccounting: boolean;",
    "  isAccountingTms: boolean;",
    "  isPrivate: boolean;",
    "  isPreferred: boolean;",
    "  isDeleted: boolean;",
    "  createdBy?: string;",
    "  updatedBy?: string;",
    "\x7d",
    ""]

/-- Interfaces with getters, unions and references to themselves. -/
def taskManagement : Sample :=
  ⟨"task-management", "Notes, tasks, schedules and sessions", ofLines taskManagementLines⟩

/-- Exported interfaces for records of clients. -/
def apiClients : Sample :=
  ⟨"api-clients", "Client records of a booking API", ofLines apiClientsLines⟩

/-- Exported interfaces for records of venues. -/
def apiVenues : Sample :=
  ⟨"api-venues", "Venue records of a booking API", ofLines apiVenuesLines⟩

/-- All samples. -/
def all : List Sample := [taskManagement, apiClients, apiVenues]

/-- The sample of a name. -/
def named? (name : String) : Option Sample := all.find? fun sample => sample.name == name

end Sample

end TypeAtlas
